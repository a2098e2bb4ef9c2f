import Mathlib.Data.List.Basic

/-!
# Numbered versions

Something is handed out again and again, each time under a number. `Identifies` says
of a history, newest first, that the number stands for the contents: going back in
time the numbers never grow, and where two of them agree the contents do too.

The history is kept in this shape by `Covers`: whatever was handed out so far has a
smaller number than the current version, or is the current version. A current version
may be replaced by one that `Follows` it, and may be handed out.

Among versions from several holders the newest can be told (`newest_iff`), if no two of its
number differ.
-/

namespace Versions

variable {α : Type} {number : α → Nat} {a b c : α} {history : List α}

/-- A version that may replace another: a later number, or the same version. -/
def Follows (number : α → Nat) (old new : α) : Prop := number old < number new ∨ old = new

/-- Everything handed out is followed by the current version. -/
def Covers (number : α → Nat) (history : List α) (current : α) : Prop :=
  ∀ a ∈ history, Follows number a current

/-- Newest first: later versions follow earlier ones. -/
def Identifies (number : α → Nat) (history : List α) : Prop :=
  history.Pairwise fun newer older => Follows number older newer

theorem Follows.refl (a : α) : Follows number a a := .inr rfl

theorem Follows.trans (h : Follows number a b) (h' : Follows number b c) : Follows number a c := by
  rcases h with hlt | rfl
  · rcases h' with hlt' | rfl
    · exact .inl (Nat.lt_trans hlt hlt')
    · exact .inl hlt
  · exact h'

theorem Follows.le (h : Follows number a b) : number a ≤ number b := by
  rcases h with hlt | rfl
  · exact Nat.le_of_lt hlt
  · exact Nat.le_refl _

theorem Follows.eq_of_number (h : Follows number a b) (heq : number a = number b) : a = b :=
  h.resolve_left fun hlt => absurd heq (Nat.ne_of_lt hlt)

theorem Covers.follow (h : Covers number history a) (hnext : Follows number a b) :
    Covers number history b :=
  fun x hx => (h x hx).trans hnext

/-- The current version is handed out. -/
theorem Covers.cons (h : Covers number history a) : Covers number (a :: history) a := by
  intro x hx
  rcases List.mem_cons.mp hx with rfl | hx
  · exact Follows.refl x
  · exact h x hx

/-- **Equal numbers, equal contents.** -/
theorem Identifies.eq_of_number (h : Identifies number history) (ha : a ∈ history)
    (hb : b ∈ history) (heq : number a = number b) : a = b := by
  induction h with
  | nil => cases ha
  | cons hhead _ ih =>
    rcases List.mem_cons.mp ha with rfl | ha'
    · rcases List.mem_cons.mp hb with rfl | hb'
      · rfl
      · exact ((hhead b hb').eq_of_number heq.symm).symm
    · rcases List.mem_cons.mp hb with rfl | hb'
      · exact (hhead a ha').eq_of_number heq
      · exact ih ha' hb'

/-- **Numbers never decrease.** -/
theorem Identifies.pairwise_le (h : Identifies number history) :
    history.Pairwise fun newer older => number older ≤ number newer :=
  h.imp Follows.le

/-- **The newest version**: the first of those with the largest number, if these are all the
same. -/
theorem newest_iff :
    (∃ highest rest, (history.map number).max? = some highest ∧
      (history.filter fun b => number b = highest) = a :: rest ∧ ∀ b ∈ rest, b = a) ↔
      a ∈ history ∧ ∀ b ∈ history, number b ≤ number a ∧ (number b = number a → b = a) := by
  constructor
  · intro ⟨highest, rest, hmax, hfil, hsame⟩
    have hmem : ∀ b, b ∈ a :: rest ↔ b ∈ history ∧ number b = highest := by simp [← hfil]
    obtain ⟨ha, rfl⟩ := (hmem a).mp (List.mem_cons_self ..)
    refine ⟨ha, fun b hb => ⟨(List.max?_eq_some_iff.mp hmax).2 _ (List.mem_map_of_mem hb), ?_⟩⟩
    intro heq
    rcases List.mem_cons.mp ((hmem b).mpr ⟨hb, heq⟩) with rfl | hrest
    · rfl
    · exact hsame b hrest
  · intro ⟨ha, hmax⟩
    have hsame : ∀ b ∈ history.filter fun b => number b = number a, b = a := by
      intro b hb
      obtain ⟨hb, heq⟩ := List.mem_filter.mp hb
      exact (hmax b hb).2 (of_decide_eq_true heq)
    have hin : a ∈ history.filter fun b => number b = number a :=
      List.mem_filter.mpr ⟨ha, decide_eq_true rfl⟩
    refine ⟨number a, (history.filter fun b => number b = number a).tail, ?_, ?_, fun b hb => ?_⟩
    · refine List.max?_eq_some_iff.mpr ⟨List.mem_map_of_mem ha, fun k hk => ?_⟩
      obtain ⟨b, hb, rfl⟩ := List.mem_map.mp hk
      exact (hmax b hb).1
    · obtain ⟨b, rest, hfil⟩ := List.exists_cons_of_ne_nil (List.ne_nil_of_mem hin)
      rw [hfil, ← hsame b (hfil ▸ List.mem_cons_self ..)]
      rfl
    · exact hsame b (List.mem_of_mem_tail hb)

end Versions
