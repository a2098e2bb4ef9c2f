/-!
# Loops — rules for `for` loops and early returns

A `for` loop with a mutable accumulator is a `foldl`. `foldl_rel` is its rule
for relations between the accumulator before and after: what every round does,
the loop does, provided doing nothing and doing it twice are allowed.
`updateFirst` is the `iter_mut().find(..)` idiom: the first element that passes
a test is rewritten in place.

A loop that reports whether it changed anything carries a flag. `Flagged` says that
the flag can be trusted for what it guards, and composes like any such relation.
-/

namespace Loop

variable {α β σ ε : Type}

/-- A reflexive and transitive relation that every round respects holds between
the accumulator before and after the loop. -/
theorem foldl_rel {R : α → α → Prop} (hrefl : ∀ a, R a a)
    (htra : ∀ a b c, R a b → R b c → R a c) {f : α → β → α} :
    ∀ {l : List β} {a : α}, (∀ acc, ∀ x ∈ l, R acc (f acc x)) → R a (l.foldl f a)
  | [], a, _ => hrefl a
  | x :: l, a, hstep => by
    have hfir := hstep a x (List.mem_cons_self ..)
    have hrest : R (f a x) (l.foldl f (f a x)) :=
      foldl_rel hrefl htra fun acc y hy => hstep acc y (List.mem_cons_of_mem _ hy)
    exact htra _ _ _ hfir hrest

/-- If the flag is down afterwards, it was down before and what it guards is the same. -/
def Flagged (view : α → σ) (flag : α → Bool) (a b : α) : Prop :=
  flag b = false → flag a = false ∧ view b = view a

namespace Flagged

variable {view : α → σ} {flag : α → Bool} {a b c : α}

theorem refl (a : α) : Flagged view flag a a := fun h => ⟨h, rfl⟩

theorem trans (h : Flagged view flag a b) (h' : Flagged view flag b c) : Flagged view flag a c := by
  intro hc
  obtain ⟨hb, heq'⟩ := h' hc
  obtain ⟨ha, heq⟩ := h hb
  exact ⟨ha, heq'.trans heq⟩

/-- A raised flag promises nothing. -/
theorem of_flag (h : flag b = true) : Flagged view flag a b :=
  fun hb => absurd hb (by rw [h]; exact Bool.true_eq_false.mp)

theorem foldl {f : α → β → α} {l : List β}
    (hstep : ∀ acc, ∀ x ∈ l, Flagged view flag acc (f acc x)) :
    Flagged view flag a (l.foldl f a) :=
  foldl_rel refl (fun _ _ _ => trans) hstep

end Flagged

/-- Rewrite the first element that passes a test. -/
def updateFirst (p : α → Bool) (f : α → α) : List α → List α
  | [] => []
  | a :: l => if p a then f a :: l else a :: updateFirst p f l

theorem mem_updateFirst {p : α → Bool} {f : α → α} {x : α} :
    ∀ {l : List α}, x ∈ updateFirst p f l → x ∈ l ∨ ∃ a ∈ l, p a = true ∧ f a = x
  | [], h => nomatch h
  | a :: l, h => by
    unfold updateFirst at h
    split at h
    next hp =>
      rcases List.mem_cons.mp h with rfl | hx
      · exact .inr ⟨a, List.mem_cons_self .., hp, rfl⟩
      · exact .inl (List.mem_cons_of_mem _ hx)
    · rcases List.mem_cons.mp h with rfl | hx
      · exact .inl (List.mem_cons_self ..)
      · rcases mem_updateFirst hx with hl | ⟨b, hb, hpb, hfb⟩
        · exact .inl (List.mem_cons_of_mem _ hl)
        · exact .inr ⟨b, List.mem_cons_of_mem _ hb, hpb, hfb⟩

/-- An update that a predicate does not see leaves its count alone. -/
theorem countP_updateFirst {p q : α → Bool} {f : α → α} (hf : ∀ a, q (f a) = q a) (l : List α) :
    (updateFirst p f l).countP q = l.countP q := by
  induction l with
  | nil => rfl
  | cons a l ih =>
    unfold updateFirst
    split
    · rw [List.countP_cons, List.countP_cons, hf a]
    · rw [List.countP_cons, List.countP_cons, ih]

/-- A check that fails with an error. -/
def ensure (condition : Bool) (error : ε) : Except ε Unit :=
  if condition then .ok () else .error error

variable {condition : Bool} {error : ε} {x : Except ε α} {f : α → Except ε β} {b : β}

theorem ensure_ok {u : Unit} (h : ensure condition error = .ok u) : condition = true := by
  unfold ensure at h
  split at h
  next hc => exact hc
  · cases h

theorem ensure_error {e : ε}
    (h : ensure condition error = .error e) : condition = false ∧ error = e := by
  unfold ensure at h
  split at h
  · cases h
  next hnot => exact ⟨Bool.eq_false_iff.mpr hnot, Except.error.inj h⟩

theorem bind_ok (h : (x >>= f) = .ok b) : ∃ a, x = .ok a ∧ f a = .ok b := by
  cases x with
  | error e => cases h
  | ok a => exact ⟨a, rfl, h⟩

theorem bind_ok_iff : (x >>= f) = .ok b ↔ ∃ a, x = .ok a ∧ f a = .ok b := by
  refine ⟨bind_ok, fun h => ?_⟩
  obtain ⟨a, rfl, hf⟩ := h
  exact hf

theorem ensure_ok_iff {u : Unit} : ensure condition error = .ok u ↔ condition = true :=
  ⟨ensure_ok, fun h => if_pos h⟩

/-- A loop of checks passes when every element does. -/
theorem forM_ok_iff {f : α → Except ε Unit} {l : List α} :
    l.forM f = .ok () ↔ ∀ x ∈ l, f x = .ok () := by
  induction l with
  | nil => exact ⟨fun _ _ hmem => absurd hmem List.not_mem_nil, fun _ => rfl⟩
  | cons x l ih =>
    rw [List.forall_mem_cons, ← ih]
    refine (bind_ok_iff (f := fun _ => l.forM f)).trans ⟨fun h => ?_, fun h => ⟨(), h.1, h.2⟩⟩
    obtain ⟨_, hx, hl⟩ := h
    exact ⟨hx, hl⟩

theorem bind_error {e : ε} (h : (x >>= f) = .error e) :
    x = .error e ∨ ∃ a, x = .ok a ∧ f a = .error e := by
  cases x with
  | error e' =>
    cases h
    exact .inl rfl
  | ok a => exact .inr ⟨a, rfl, h⟩

theorem mapError_ok_iff {ε' : Type} {f : ε → ε'} {a : α} : x.mapError f = .ok a ↔ x = .ok a := by
  cases x with
  | error e =>
    constructor
    · intro h
      cases h
    · intro h
      cases h
  | ok b => exact ⟨fun h => congrArg _ (Except.ok.inj h), fun h => congrArg _ (Except.ok.inj h)⟩

theorem mapError_error_iff {ε' : Type} {f : ε → ε'} {e : ε'} :
    x.mapError f = .error e ↔ ∃ e', x = .error e' ∧ f e' = e := by
  constructor
  · intro h
    cases x with
    | error e' => exact ⟨e', rfl, Except.error.inj h⟩
    | ok a => cases h
  · intro h
    obtain ⟨e', rfl, rfl⟩ := h
    rfl

theorem map_ok {f : α → β} (h : x.map f = .ok b) : ∃ a, x = .ok a ∧ f a = b := by
  cases x with
  | error e => cases h
  | ok a => exact ⟨a, rfl, Except.ok.inj h⟩

end Loop
