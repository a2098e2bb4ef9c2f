import Mathlib.Data.List.Sort
import Mathlib.Data.List.Count

/-!
# Ordered tables — `BTreeMap`s whose rows carry their own key

A `Table key` is a list of rows in strictly increasing `key` order, so two
rows never share a key and iteration is in key order, as it is in an ordered
map. Storing the rows instead of key/value pairs makes the invariant "the map
key is the record's own identifier" true by construction: no caller has to
carry it around as a hypothesis.

The specification of every operation is its effect on membership (`mem_*`)
and on lookup (`get?_*`); counting lemmas (`count_*`) serve the capacity
arguments. Nothing below unfolds `rows` again.
-/

namespace Ordered

/-- Rows kept in strictly increasing key order. -/
structure Table {ρ κ : Type} [LinearOrder κ] (key : ρ → κ) where
  rows : List ρ
  sorted : rows.Pairwise fun a b => key a < key b

variable {ρ κ : Type} [LinearOrder κ] {key : ρ → κ}

/-- Ordered insertion; a row with the same key is replaced. -/
def insertRow (key : ρ → κ) (r : ρ) : List ρ → List ρ
  | [] => [r]
  | a :: l =>
    if key r < key a then r :: a :: l
    else if key r = key a then r :: l
    else a :: insertRow key r l

theorem mem_of_mem_insertRow {r x : ρ} : ∀ {l : List ρ}, x ∈ insertRow key r l → x = r ∨ x ∈ l
  | [], h => by simpa [insertRow] using h
  | a :: l, h => by
    unfold insertRow at h
    split at h
    · simpa using h
    split at h
    · rcases List.mem_cons.mp h with rfl | h'
      · exact .inl rfl
      · exact .inr (List.mem_cons_of_mem _ h')
    · rcases List.mem_cons.mp h with rfl | h'
      · exact .inr (List.mem_cons_self ..)
      · rcases mem_of_mem_insertRow h' with rfl | h''
        · exact .inl rfl
        · exact .inr (List.mem_cons_of_mem _ h'')

theorem insertRow_sorted (r : ρ) : ∀ {l : List ρ}, (l.Pairwise fun a b => key a < key b) →
      (insertRow key r l).Pairwise fun a b => key a < key b
  | [], _ => by simp [insertRow]
  | a :: l, h => by
    obtain ⟨hhead, htail⟩ := List.pairwise_cons.mp h
    unfold insertRow
    split
    next hlt =>
      refine List.pairwise_cons.mpr ⟨?_, h⟩
      intro b hb
      rcases List.mem_cons.mp hb with rfl | hb'
      · exact hlt
      · exact lt_trans hlt (hhead b hb')
    next hnlt =>
      split
      next heq =>
        refine List.pairwise_cons.mpr ⟨?_, htail⟩
        intro b hb
        rw [heq]
        exact hhead b hb
      next hne =>
        refine List.pairwise_cons.mpr ⟨?_, insertRow_sorted r htail⟩
        intro b hb
        rcases mem_of_mem_insertRow hb with rfl | hb'
        · exact lt_of_le_of_ne (not_lt.mp hnlt) (fun he => hne he.symm)
        · exact hhead b hb'

theorem mem_insertRow {r x : ρ} : ∀ {l : List ρ}, (l.Pairwise fun a b => key a < key b) →
      (x ∈ insertRow key r l ↔ x = r ∨ (x ∈ l ∧ key x ≠ key r))
  | [], _ => by simp [insertRow]
  | a :: l, h => by
    obtain ⟨hhead, htail⟩ := List.pairwise_cons.mp h
    unfold insertRow
    split
    next hlt =>
      have habo : ∀ b ∈ a :: l, key b ≠ key r := by
        intro b hb
        rcases List.mem_cons.mp hb with rfl | hb'
        · exact ne_of_gt hlt
        · exact ne_of_gt (lt_trans hlt (hhead b hb'))
      rw [List.mem_cons]
      exact or_congr_right ⟨fun hx => ⟨hx, habo x hx⟩, fun hx => hx.1⟩
    next hnlt =>
      split
      next heq =>
        have habo : ∀ b ∈ l, key b ≠ key r := by
          intro b hb
          rw [heq]
          exact ne_of_gt (hhead b hb)
        rw [List.mem_cons]
        refine or_congr_right ⟨fun hx => ⟨List.mem_cons_of_mem _ hx, habo x hx⟩, ?_⟩
        rintro ⟨hx, hne⟩
        rcases List.mem_cons.mp hx with rfl | hx'
        · exact absurd heq.symm hne
        · exact hx'
      next hne =>
        rw [List.mem_cons, mem_insertRow htail, List.mem_cons]
        constructor
        · rintro (rfl | rfl | ⟨hx, hk⟩)
          · exact .inr ⟨.inl rfl, fun he => hne he.symm⟩
          · exact .inl rfl
          · exact .inr ⟨.inr hx, hk⟩
        · rintro (rfl | ⟨rfl | hx, hk⟩)
          · exact .inr (.inl rfl)
          · exact .inl rfl
          · exact .inr (.inr ⟨hx, hk⟩)

/-- A row with a new key is only interleaved. -/
theorem insertRow_perm {r : ρ} :
    ∀ {l : List ρ}, (∀ x ∈ l, key x ≠ key r) → (insertRow key r l).Perm (r :: l)
  | [], _ => List.Perm.refl _
  | a :: l, h => by
    unfold insertRow
    split
    · exact List.Perm.refl _
    · rw [if_neg (fun he => h a (List.mem_cons_self ..) he.symm)]
      exact ((insertRow_perm fun x hx => h x (List.mem_cons_of_mem _ hx)).cons a).trans
        (List.Perm.swap r a l)

/-- Insertion commutes with a map that keeps the keys. -/
theorem map_insertRow {ρ' : Type} {key' : ρ' → κ} {f : ρ → ρ'} (hf : ∀ r, key' (f r) = key r)
    (r : ρ) : ∀ l : List ρ, (insertRow key r l).map f = insertRow key' (f r) (l.map f)
  | [] => rfl
  | a :: l => by
    rw [List.map_cons]
    unfold insertRow
    rw [hf, hf, ← map_insertRow hf r l]
    repeat' split
    all_goals rfl

namespace Table

instance : Membership ρ (Table key) := ⟨fun t r => r ∈ t.rows⟩

variable {t u : Table key} {r x : ρ} {p q : ρ → Bool} {k k' : κ} {f g : ρ → ρ}
  {hf : ∀ r, key (f r) = key r} {hg : ∀ r, key (g r) = key r}

theorem mem_rows : r ∈ t.rows ↔ r ∈ t := Iff.rfl

@[ext] theorem ext_rows (h : t.rows = u.rows) : t = u := by
  cases t
  cases u
  cases h
  rfl

instance [DecidableEq ρ] (r : ρ) (t : Table key) : Decidable (r ∈ t) :=
  inferInstanceAs (Decidable (r ∈ t.rows))

instance [DecidableEq ρ] : DecidableEq (Table key) := fun t u =>
  decidable_of_iff (t.rows = u.rows) ⟨ext_rows, fun h => h ▸ rfl⟩

/-- No row at all. -/
def empty : Table key := ⟨[], List.Pairwise.nil⟩

/-- The row stored under a key. -/
def get? (t : Table key) (k : κ) : Option ρ := t.rows.find? fun r => decide (key r = k)

/-- Whether a key is stored. -/
def contains (t : Table key) (k : κ) : Bool := (t.get? k).isSome

/-- Store a row under its own key. -/
def insert (t : Table key) (r : ρ) : Table key :=
  ⟨insertRow key r t.rows, insertRow_sorted r t.sorted⟩

/-- Forget the rows that fail a test. -/
def filter (t : Table key) (p : ρ → Bool) : Table key :=
  ⟨t.rows.filter p, t.sorted.filter _⟩

/-- Forget one key. -/
def erase (t : Table key) (k : κ) : Table key := t.filter fun r => decide (key r ≠ k)

/-- Rewrite every row in place. -/
def map (t : Table key) (f : ρ → ρ) (hf : ∀ r, key (f r) = key r) : Table key :=
  ⟨t.rows.map f, by
    rw [List.pairwise_map]
    exact t.sorted.imp fun h => by rw [hf, hf]; exact h⟩

/-- Rewrite the row stored under a key, if there is one. -/
def modify (t : Table key) (k : κ) (f : ρ → ρ) (hf : ∀ r, key (f r) = key r) : Table key :=
  t.map (fun r => if key r = k then f r else r) (by
    intro r
    split
    · exact hf r
    · rfl)

/-- Store every row of a list, later rows replacing earlier ones. -/
def ofList (l : List ρ) : Table key := l.foldl insert empty

/-- The number of rows that pass a test. -/
def count (t : Table key) (p : ρ → Bool) : Nat := t.rows.countP p

/-! ## Membership -/

@[simp] theorem mem_empty : r ∉ (empty : Table key) := by
  intro h
  cases h

@[simp] theorem mem_insert : x ∈ t.insert r ↔ x = r ∨ (x ∈ t ∧ key x ≠ key r) :=
  mem_insertRow t.sorted

@[simp] theorem mem_filter : x ∈ t.filter p ↔ x ∈ t ∧ p x = true := List.mem_filter

@[simp] theorem mem_erase : x ∈ t.erase k ↔ x ∈ t ∧ key x ≠ k := by
  simp [erase]

@[simp] theorem mem_map : x ∈ t.map f hf ↔ ∃ r ∈ t, f r = x := List.mem_map

theorem mem_map_of_mem (hf : ∀ r, key (f r) = key r) (h : r ∈ t) : f r ∈ t.map f hf :=
  mem_map.mpr ⟨r, h, rfl⟩

/-- `mem_map` where the table is known only up to unfolding. -/
theorem exists_of_mem_map (hf : ∀ r, key (f r) = key r) (h : x ∈ t.map f hf) : ∃ r ∈ t, f r = x :=
  mem_map.mp h

theorem mem_modify : x ∈ t.modify k f hf ↔ (x ∈ t ∧ key x ≠ k) ∨ ∃ r ∈ t, key r = k ∧ f r = x := by
  unfold modify
  rw [mem_map]
  constructor
  · rintro ⟨r, hr, hx⟩
    split at hx
    next hk => exact .inr ⟨r, hr, hk, hx⟩
    next hk => exact .inl (hx ▸ ⟨hr, hk⟩)
  · rintro (⟨hx, hk⟩ | ⟨r, hr, hk, hx⟩)
    · exact ⟨x, hx, if_neg hk⟩
    · exact ⟨r, hr, by rw [if_pos hk]; exact hx⟩

/-- No row is lost. -/
theorem exists_mem_modify (k : κ) (hf : ∀ r, key (f r) = key r) (h : r ∈ t) :
    ∃ r' ∈ t.modify k f hf, key r' = key r := by
  by_cases hkey : key r = k
  · exact ⟨f r, mem_modify.mpr (.inr ⟨r, h, hkey, rfl⟩), hf r⟩
  · exact ⟨r, mem_modify.mpr (.inl ⟨h, hkey⟩), rfl⟩

theorem keys_nodup (t : Table key) : (t.rows.map key).Nodup :=
  List.pairwise_map.mpr (t.sorted.imp fun h => ne_of_lt h)

/-- A key determines its row. -/
theorem eq_of_key {a b : ρ} (ha : a ∈ t) (hb : b ∈ t) (h : key a = key b) : a = b := by
  exact List.inj_on_of_nodup_map t.keys_nodup ha hb h

theorem rows_nodup (t : Table key) : t.rows.Nodup :=
  t.sorted.imp fun h he => absurd (he ▸ h) (lt_irrefl _)

/-- A row splits the table into the rows before it and rows with other keys. -/
theorem rows_split (h : r ∈ t) (hp : ∀ x, p x = true ↔ key x ≠ key r) :
    ∃ rest, t.rows = t.rows.takeWhile p ++ r :: rest ∧ ∀ x ∈ rest, key x ≠ key r := by
  obtain ⟨front, rest, heq⟩ := List.append_of_mem h
  have hsor := t.sorted
  rw [heq, List.pairwise_append, List.pairwise_cons] at hsor
  obtain ⟨_, ⟨hrest, _⟩, hfro⟩ := hsor
  have hall : ∀ x ∈ front, p x = true :=
    fun x hx => (hp x).mpr (ne_of_lt (hfro x hx r (List.mem_cons_self ..)))
  have hstop : ¬ p r = true := fun hr => (hp r).mp hr rfl
  refine ⟨rest, ?_, fun x hx => (ne_of_lt (hrest x hx)).symm⟩
  rw [heq, List.takeWhile_append_of_pos hall, List.takeWhile_cons_of_neg hstop, List.append_nil]

/-- Erasing the first rows one by one drops them. -/
theorem rows_foldl_erase_take (n : Nat) (t : Table key) :
    ((t.rows.take n).foldl (fun acc r => acc.erase (key r)) t).rows = t.rows.drop n := by
  induction n generalizing t with
  | zero => rfl
  | succ n ih =>
    cases hrows : t.rows with
    | nil => exact hrows
    | cons r rest =>
      have hsor := t.sorted
      rw [hrows, List.pairwise_cons] at hsor
      have hera : (t.erase (key r)).rows = rest := by
        show t.rows.filter (fun x => decide (key x ≠ key r)) = rest
        rw [hrows, List.filter_cons_of_neg (by simp), List.filter_eq_self]
        intro x hx
        exact decide_eq_true (ne_of_gt (hsor.1 x hx))
      have hdro := ih (t.erase (key r))
      rw [hera] at hdro
      exact hdro

/-- Erasing keys one by one leaves the rows that have none of them. -/
theorem mem_foldl_erase {β : Type} {g : β → κ} : ∀ {l : List β} {t : Table key},
    x ∈ l.foldl (fun t b => t.erase (g b)) t ↔ x ∈ t ∧ ∀ b ∈ l, key x ≠ g b
  | [], t => by simp
  | b :: l, t => by
    rw [List.foldl_cons, mem_foldl_erase, mem_erase, List.forall_mem_cons, and_assoc]

/-- The row with the largest key is dropped last. -/
theorem mem_drop_of_largest (h : r ∈ t) (hmax : ∀ x ∈ t, key x ≤ key r)
    {n : Nat} (hn : n < t.rows.length) : r ∈ t.rows.drop n := by
  obtain ⟨front, rest, heq⟩ := List.append_of_mem h
  have hsor := t.sorted
  rw [heq, List.pairwise_append, List.pairwise_cons] at hsor
  obtain ⟨_, ⟨hrest, _⟩, _⟩ := hsor
  have hlast : rest = [] := by
    refine List.eq_nil_iff_forall_not_mem.mpr fun x hx => ?_
    have hmem : x ∈ t := mem_rows.mp (heq ▸ List.mem_append_right _ (List.mem_cons_of_mem _ hx))
    exact absurd (hrest x hx) (not_lt.mpr (hmax x hmem))
  subst hlast
  rw [heq, List.length_append, List.length_singleton] at hn
  rw [heq, List.drop_append_of_le_length (by omega)]
  exact List.mem_append_right _ (List.mem_singleton_self r)

/-! ## Lookup -/

theorem get?_eq_some : t.get? k = some r ↔ r ∈ t ∧ key r = k := by
  constructor
  · intro h
    exact ⟨List.mem_of_find?_eq_some h, by simpa using List.find?_some h⟩
  · rintro ⟨hr, hk⟩
    cases hg : t.get? k with
    | none =>
      have := List.find?_eq_none.mp hg r hr
      simp [hk] at this
    | some r' =>
      have hr' := List.mem_of_find?_eq_some hg
      have hk' : key r' = k := by simpa using List.find?_some hg
      rw [eq_of_key hr hr' (hk.trans hk'.symm)]

theorem get?_eq_none : t.get? k = none ↔ ∀ r ∈ t, key r ≠ k := by
  unfold get?
  rw [List.find?_eq_none]
  simp [mem_rows]

theorem contains_iff : t.contains k = true ↔ ∃ r ∈ t, key r = k := by
  unfold contains
  rw [Option.isSome_iff_exists]
  exact exists_congr fun r => get?_eq_some

theorem contains_eq_false : t.contains k = false ↔ ∀ r ∈ t, key r ≠ k := by
  unfold contains
  rw [← get?_eq_none]
  cases t.get? k <;> simp

theorem mem_of_get? (h : t.get? k = some r) : r ∈ t := (get?_eq_some.mp h).1

theorem key_of_get? (h : t.get? k = some r) : key r = k := (get?_eq_some.mp h).2

theorem get?_of_mem (h : r ∈ t) : t.get? (key r) = some r := get?_eq_some.mpr ⟨h, rfl⟩

theorem get?_insert_self (t : Table key) (r : ρ) : (t.insert r).get? (key r) = some r :=
  get?_eq_some.mpr ⟨mem_insert.mpr (.inl rfl), rfl⟩

/-- Two tables that agree on lookup at `k`, in terms of membership. -/
theorem get?_congr (h : ∀ r, key r = k → (r ∈ t ↔ r ∈ u)) : t.get? k = u.get? k := by
  cases hg : u.get? k with
  | none =>
    rw [get?_eq_none] at hg ⊢
    exact fun r hr hk => hg r ((h r hk).mp hr) hk
  | some r =>
    rw [get?_eq_some] at hg ⊢
    exact ⟨(h r hg.2).mpr hg.1, hg.2⟩

theorem get?_insert_ne (t : Table key) (h : k ≠ key r) : (t.insert r).get? k = t.get? k :=
  get?_congr fun x hx => by
    rw [mem_insert]
    constructor
    · rintro (rfl | ⟨hm, -⟩)
      · exact absurd hx.symm h
      · exact hm
    · exact fun hm => .inr ⟨hm, fun he => h (hx ▸ he)⟩

theorem get?_insert (t : Table key) (r : ρ) (k : κ) :
    (t.insert r).get? k = if k = key r then some r else t.get? k := by
  split
  next h => rw [h, get?_insert_self]
  next h => exact get?_insert_ne t h

theorem get?_erase_self (t : Table key) (k : κ) : (t.erase k).get? k = none :=
  get?_eq_none.mpr fun _ hr => (mem_erase.mp hr).2

theorem get?_erase_ne (t : Table key) (h : k' ≠ k) : (t.erase k).get? k' = t.get? k' :=
  get?_congr fun x hx => by
    rw [mem_erase]
    exact ⟨fun hm => hm.1, fun hm => ⟨hm, fun he => h (hx ▸ he)⟩⟩

theorem get?_map (t : Table key) (k : κ) : (t.map f hf).get? k = (t.get? k).map f := by
  cases hg : t.get? k with
  | none =>
    rw [get?_eq_none] at hg
    rw [Option.map_none, get?_eq_none]
    intro r hr
    obtain ⟨r', hr', rfl⟩ := mem_map.mp hr
    rw [hf]
    exact hg r' hr'
  | some r =>
    obtain ⟨hm, hk⟩ := get?_eq_some.mp hg
    rw [Option.map_some, get?_eq_some]
    exact ⟨mem_map.mpr ⟨r, hm, rfl⟩, (hf r).trans hk⟩

theorem get?_modify (t : Table key) :
    (t.modify k f hf).get? k' = if k' = k then (t.get? k').map f else t.get? k' := by
  unfold modify
  rw [get?_map]
  cases hg : t.get? k' with
  | none => simp
  | some r =>
    have hk := key_of_get? hg
    rw [Option.map_some, Option.map_some, hk]
    split <;> rfl

theorem contains_map (t : Table key) (f : ρ → ρ) (hf : ∀ r, key (f r) = key r) (k : κ) :
    (t.map f hf).contains k = t.contains k := by
  unfold contains
  rw [get?_map, Option.isSome_map]

theorem contains_insert (t : Table key) (r : ρ) (k : κ) :
    (t.insert r).contains k = (decide (k = key r) || t.contains k) := by
  unfold contains
  rw [get?_insert]
  split
  next h => simp [h]
  next h => simp [h]

/-- Tables with the same lookups are equal. -/
theorem ext_get? (h : ∀ k, t.get? k = u.get? k) : t = u := by
  have hmem : ∀ r, r ∈ t.rows ↔ r ∈ u.rows := by
    intro r
    rw [mem_rows, mem_rows]
    constructor
    · intro hr
      exact mem_of_get? ((h (key r)).symm.trans (get?_of_mem hr))
    · intro hr
      exact mem_of_get? ((h (key r)).trans (get?_of_mem hr))
  have hperm := (List.perm_ext_iff_of_nodup t.rows_nodup u.rows_nodup).mpr hmem
  refine ext_rows (hperm.eq_of_pairwise ?_ t.sorted u.sorted)
  intro a b _ _ hab hba
  exact absurd hab (not_lt.mpr (le_of_lt hba))

/-- Storing a row that is there already. -/
theorem erase_eq_self (h : t.get? k = none) : t.erase k = t := by
  refine ext_get? fun k' => ?_
  by_cases hk : k' = k
  · rw [hk, get?_erase_self, h]
  · exact get?_erase_ne t hk

/-- A row takes the place of the one with its key. -/
theorem insert_perm (t : Table key) (r : ρ) :
    (t.insert r).rows.Perm (r :: (t.erase (key r)).rows) := by
  have hsame : t.insert r = (t.erase (key r)).insert r := by
    refine ext_get? fun k => ?_
    rw [get?_insert, get?_insert]
    split
    · rfl
    next hk => exact (get?_erase_ne t hk).symm
  rw [hsame]
  exact insertRow_perm fun x hx => (mem_erase.mp hx).2

theorem insert_eq_self (h : t.get? (key r) = some r) : t.insert r = t := by
  refine ext_get? fun k => ?_
  rw [get?_insert]
  split
  next hk => rw [hk, h]
  · rfl

theorem perm_erase (h : r ∈ t) : t.rows.Perm (r :: (t.erase (key r)).rows) := by
  have hperm := t.insert_perm r
  rwa [insert_eq_self (get?_of_mem h)] at hperm

theorem map_eq_self (h : ∀ r ∈ t, f r = r) : t.map f hf = t := by
  apply ext_rows
  show t.rows.map f = t.rows
  exact (List.map_congr_left h).trans (List.map_id'' (fun _ => rfl) _)

theorem modify_eq_self (h : ∀ r, t.get? k = some r → f r = r) : t.modify k f hf = t := by
  refine map_eq_self fun r hr => ?_
  split
  next hk => exact h r (get?_eq_some.mpr ⟨hr, hk⟩)
  · rfl

theorem map_congr (h : ∀ r ∈ t, f r = g r) : t.map f hf = t.map g hg :=
  ext_rows (List.map_congr_left h)

theorem map_map : (t.map f hf).map g hg = t.map (g ∘ f) (fun r => (hg _).trans (hf r)) :=
  ext_rows (by simp [map])

theorem map_modify (hf : ∀ r, key (f r) = key r) {h : ρ → ρ} {hh : ∀ r, key (h r) = key r}
    (heq : ∀ r ∈ t, g (if key r = k then f r else r) = h r) :
    (t.modify k f hf).map g hg = t.map h hh :=
  ext_rows (by simpa [map, modify] using fun r (hr : r ∈ t.rows) => heq r hr)

/-- Two tables with the same rows among those that pass a test list them in the
same order. -/
theorem filter_rows_congr
    (h : ∀ r, p r = true → (r ∈ t ↔ r ∈ u)) : t.rows.filter p = u.rows.filter p := by
  have hmem : ∀ r, r ∈ t.filter p ↔ r ∈ u.filter p := by
    intro r
    rw [mem_filter, mem_filter]
    exact ⟨fun hr => ⟨(h r hr.2).mp hr.1, hr.2⟩, fun hr => ⟨(h r hr.2).mpr hr.1, hr.2⟩⟩
  have htab : t.filter p = u.filter p := ext_get? fun k => get?_congr fun r _ => hmem r
  exact congrArg rows htab

/-! ## Counting -/

theorem rows_any_congr (h : ∀ r, p r = true → (r ∈ t ↔ r ∈ u)) : t.rows.any p = u.rows.any p := by
  rw [Bool.eq_iff_iff, List.any_eq_true, List.any_eq_true]
  exact exists_congr fun r => and_congr_left fun hr => h r hr

theorem count_eq_of_mem_iff (h : ∀ r, p r = true → (r ∈ t ↔ r ∈ u)) : t.count p = u.count p := by
  unfold count
  rw [List.countP_eq_length_filter, List.countP_eq_length_filter, filter_rows_congr h]

/-- Counting in a table that keeps some of the counted rows of another one. -/
theorem count_eq_count_and (h : ∀ r, p r = true → (r ∈ u ↔ r ∈ t ∧ q r = true)) :
    u.count p = t.count fun r => p r && q r := by
  have hfil : u.count p = (t.filter q).count p :=
    count_eq_of_mem_iff fun r hr => (h r hr).trans mem_filter.symm
  rw [hfil]
  exact List.countP_filter

theorem count_and_add_count_and_not (t : Table key) (p q : ρ → Bool) :
    (t.count fun r => p r && q r) + (t.count fun r => p r && !q r) = t.count p := by
  unfold count
  induction t.rows with
  | nil => rfl
  | cons r rows ih =>
    simp only [List.countP_cons]
    cases p r <;> cases q r <;> simp <;> omega

theorem count_map (t : Table key) (p : ρ → Bool) :
    (t.map f hf).count p = t.count fun r => p (f r) :=
  List.countP_map

theorem count_congr (h : ∀ r ∈ t, p r = q r) : t.count p = t.count q :=
  List.countP_congr fun r hr => by rw [h r hr]

/-- Counted rows whose keys are among the counted keys of another table are no
more than those. -/
theorem count_le_of_key
    (h : ∀ r ∈ t, p r = true → ∃ x ∈ u, q x = true ∧ key x = key r) : t.count p ≤ u.count q := by
  have hnod : ((t.rows.filter p).map key).Nodup := by
    have hsor := (t.sorted.imp fun h => ne_of_lt h).filter p
    exact List.pairwise_map.mpr hsor
  have hsub : (t.rows.filter p).map key ⊆ (u.rows.filter q).map key := by
    intro k hk
    obtain ⟨r, hr, rfl⟩ := List.mem_map.mp hk
    obtain ⟨hmem, hp⟩ := List.mem_filter.mp hr
    obtain ⟨x, hx, hq, hkey⟩ := h r hmem hp
    exact List.mem_map.mpr ⟨x, List.mem_filter.mpr ⟨hx, hq⟩, hkey⟩
  have hlen := (List.subperm_of_subset hnod hsub).length_le
  unfold count
  rw [List.countP_eq_length_filter, List.countP_eq_length_filter]
  simpa using hlen

theorem length_le_count {l : List ρ} (hnod : l.Nodup)
    (h : ∀ r ∈ l, r ∈ t ∧ p r = true) : l.length ≤ t.count p := by
  have hsub : l ⊆ t.rows.filter p := fun r hr => List.mem_filter.mpr (h r hr)
  unfold count
  rw [List.countP_eq_length_filter]
  exact (List.subperm_of_subset hnod hsub).length_le

/-- A row under a new key adds itself to every count. -/
theorem count_insert (h : ∀ x ∈ t, key x ≠ key r) (p : ρ → Bool) :
    (t.insert r).count p = t.count p + if p r then 1 else 0 := by
  unfold count insert
  rw [(insertRow_perm h).countP_eq, List.countP_cons]

theorem count_eq_zero : t.count p = 0 ↔ ∀ r ∈ t, ¬ p r = true := List.countP_eq_zero

end Table

/-! ## Maps and sets -/

/-- A `BTreeMap`: a table of key/value pairs. -/
abbrev Map (κ α : Type) [LinearOrder κ] := Table (Prod.fst : κ × α → κ)

/-- A `BTreeSet`: a table whose rows are their own keys. -/
abbrev Keys (κ : Type) [LinearOrder κ] := Table (id : κ → κ)

namespace Map

variable {κ α : Type} [LinearOrder κ]

/-- The value stored under a key. -/
def lookup (m : Map κ α) (k : κ) : Option α := (m.get? k).map Prod.snd

/-- Store a value under a key. -/
def put (m : Map κ α) (k : κ) (v : α) : Map κ α := m.insert (k, v)

/-- Rewrite every value in place. -/
def mapValues (m : Map κ α) (f : κ → α → α) : Map κ α :=
  m.map (fun p => (p.1, f p.1 p.2)) (fun _ => rfl)

/-- Rewrite the value stored under a key, if there is one. -/
def modifyValue (m : Map κ α) (k : κ) (f : α → α) : Map κ α :=
  m.modify k (fun p => (p.1, f p.2)) (fun _ => rfl)

/-- The keys, in order. -/
def keys (m : Map κ α) : List κ := m.rows.map Prod.fst

/-- The values, in key order. -/
def values (m : Map κ α) : List α := m.rows.map Prod.snd

theorem lookup_eq_some {m : Map κ α} {k : κ} {v : α} : m.lookup k = some v ↔ (k, v) ∈ m := by
  unfold lookup
  constructor
  · intro h
    obtain ⟨⟨k', v'⟩, hg, rfl⟩ := Option.map_eq_some_iff.mp h
    obtain ⟨hm, rfl⟩ := Table.get?_eq_some.mp hg
    exact hm
  · intro h
    rw [Table.get?_eq_some.mpr ⟨h, rfl⟩]
    rfl

theorem lookup_put (m : Map κ α) (k k' : κ) (v : α) :
    (m.put k v).lookup k' = if k' = k then some v else m.lookup k' := by
  unfold lookup put
  rw [Table.get?_insert]
  by_cases h : k' = k
  · simp [h]
  · simp [h]

theorem lookup_erase (m : Map κ α) (k k' : κ) :
    lookup (m.erase k) k' = if k' = k then none else m.lookup k' := by
  unfold lookup
  split
  next h => rw [h, Table.get?_erase_self]; rfl
  next h => rw [Table.get?_erase_ne m h]

/-- Entries put one after the other, under keys that differ, are all there. -/
theorem mem_foldl_put {β : Type} (f : β → κ) (g : β → α) {k : κ} {v : α} :
    ∀ {l : List β} {m : Map κ α}, l.Pairwise (fun a b => f a ≠ f b) →
      (∀ x ∈ l, m.contains (f x) = false) →
      ((k, v) ∈ l.foldl (fun m x => m.put (f x) (g x)) m ↔ (k, v) ∈ m ∨ ∃ x ∈ l, f x = k ∧ g x = v)
  | [], m, _, _ => by simp
  | x :: l, m, hkeys, hm => by
    obtain ⟨hx, hl⟩ := List.pairwise_cons.mp hkeys
    have hm' : ∀ y ∈ l, (m.put (f x) (g x)).contains (f y) = false := by
      intro y hy
      unfold put
      rw [Table.contains_insert]
      simp [(hx y hy).symm, hm y (List.mem_cons_of_mem _ hy)]
    rw [List.foldl_cons, mem_foldl_put f g hl hm']
    unfold put
    rw [Table.mem_insert]
    have hfree := Table.contains_eq_false.mp (hm x (List.mem_cons_self ..)) (k, v)
    constructor
    · intro h
      rcases h with (heq | ⟨hold, -⟩) | ⟨y, hy, hyk, hyv⟩
      · exact .inr ⟨x, List.mem_cons_self .., (congrArg Prod.fst heq).symm,
          (congrArg Prod.snd heq).symm⟩
      · exact .inl hold
      · exact .inr ⟨y, List.mem_cons_of_mem _ hy, hyk, hyv⟩
    · intro h
      rcases h with hold | ⟨y, hy, hyk, hyv⟩
      · exact .inl (.inr ⟨hold, hfree hold⟩)
      · rcases List.mem_cons.mp hy with rfl | hy
        · exact .inl (.inl (by rw [hyk, hyv]))
        · exact .inr ⟨y, hy, hyk, hyv⟩

end Map

namespace Keys

variable {κ : Type} [LinearOrder κ]

/-- A set from its elements. -/
def ofElems (l : List κ) : Keys κ := Table.ofList l

theorem mem_foldl_insert_iff {l : List κ} {x : κ} :
    ∀ {s : Keys κ}, x ∈ l.foldl Table.insert s ↔ x ∈ s ∨ x ∈ l := by
  induction l with
  | nil => simp
  | cons a l ih =>
    intro s
    rw [List.foldl_cons, ih, Table.mem_insert, List.mem_cons]
    by_cases hxa : x = a
    · simp [hxa]
    · simp [hxa]

@[simp] theorem mem_ofElems {l : List κ} {x : κ} : x ∈ ofElems l ↔ x ∈ l := by
  unfold ofElems Table.ofList
  rw [mem_foldl_insert_iff]
  simp

theorem contains_iff_mem {s : Keys κ} {k : κ} : s.contains k = true ↔ k ∈ s := by
  rw [Table.contains_iff]
  constructor
  · rintro ⟨r, hr, rfl⟩
    exact hr
  · intro h
    exact ⟨k, h, rfl⟩

end Keys

end Ordered
