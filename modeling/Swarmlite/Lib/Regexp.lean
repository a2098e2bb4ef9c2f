import Mathlib
import Swarmlite.Lib.Text

/-!
# Regexp — the part of RE2 that generated patterns use

A pattern is read from its text: anchors, `.*`, characters that stand for
themselves or are escaped, an optional group, and `(?i)` in front. All flags
have their defaults, so `^` and `$` are the ends of the text and `.` is any
character but a newline. `compile` refuses what is not of this form.

`run` is a backtracking matcher in continuation style: the continuation is what
comes after the expression, and the boolean says whether nothing has been read
yet. It tries the longest `.*` and the group itself first, so the end it finds
is the one the engine prefers. `replaceAllString` substitutes a template in
which `$` introduces the text of a submatch; these expressions have none but
the whole match, `$0`.
-/

inductive Regexp where
  | empty
  | char (c : Char)
  | bol
  | eol
  | dots
  | opt (group : Regexp)
  | cat (first second : Regexp)
deriving DecidableEq

namespace Regexp

/-- The tables of the engine: case variants, and the characters of names in templates. -/
structure Tables where
  fold : Char → Char → Bool
  wordChar : Char → Bool
  /-- Only letters have variants among the ASCII characters. -/
  fold_ascii : ∀ c d, c.toNat < 128 → c.isAlpha = false → fold c d = true → d = c

abbrev Continuation := Bool → List Char → Option (List Char)

/-- The match ends here. -/
def done : Continuation := fun _ rest => some rest

def dotsThen (k : Continuation) : Continuation
  | start, [] => k start []
  | start, c :: s => if c = '\n' then k start (c :: s) else (dotsThen k false s).or (k start (c :: s))

/-- What is left of the text after the expression and its continuation. -/
def run (same : Char → Char → Bool) : Regexp → Continuation → Continuation
  | empty, k, start, s => k start s
  | char _, _, _, [] => none
  | char c, k, _, d :: s => if same c d then k false s else none
  | bol, k, start, s => if start then k start s else none
  | eol, k, start, s => if s = [] then k start s else none
  | dots, k, start, s => dotsThen k start s
  | opt group, k, start, s => (run same group k start s).or (k start s)
  | cat first second, k, start, s => run same first (run same second k) start s

/-! ## Reading a pattern -/

def isMeta (c : Char) : Bool := "\\.+*?()|[]\x7b\x7d^$".toList.contains c

/-- Behind a backslash these stand for themselves. -/
def isPunctuation (c : Char) : Bool := c.toNat < 128 && !c.isAlphanum

/-- The first argument is what stands before an open group. -/
def parse : Option Regexp → Regexp → List Char → Option Regexp
  | none, r, [] => some r
  | some _, _, [] => none
  | none, r, '(' :: '?' :: ':' :: s => parse (some r) empty s
  | some outer, r, ')' :: '?' :: s => parse none (outer.cat r.opt) s
  | outer, r, '^' :: s => parse outer (r.cat bol) s
  | outer, r, '$' :: s => parse outer (r.cat eol) s
  | outer, r, '.' :: '*' :: s => parse outer (r.cat dots) s
  | outer, r, '\\' :: c :: s => if isPunctuation c then parse outer (r.cat (char c)) s else none
  | outer, r, c :: s => if isMeta c then none else parse outer (r.cat (char c)) s

/-- The expression, and how characters are compared. -/
def compile (tables : Tables) (pattern : String) : Option (Regexp × (Char → Char → Bool)) :=
  match Text.dropPrefix? "(?i)" pattern with
  | some pattern => (parse none empty pattern.toList).map (·, tables.fold)
  | none => (parse none empty pattern.toList).map (·, (· == ·))

/-! ## Searching and replacing -/

def search (same : Char → Char → Bool) (r : Regexp) : Bool → List Char → Bool
  | start, [] => (r.run same done start []).isSome
  | start, c :: s => (r.run same done start (c :: s)).isSome || search same r false s

/-- Whether the pattern matches somewhere in the text. -/
def matchString (tables : Tables) (pattern text : String) : Option Bool :=
  (compile tables pattern).map fun compiled => search compiled.2 compiled.1 true text.toList

/-- The text of a submatch. -/
def submatch (found name : List Char) : List Char := if name = ['0'] then found else []

/-- A piece of the template behind a `$`; without a name the `$` is text. -/
def reference (tables : Tables) (found : List Char) : List Char → List Char
  | '\x7b' :: s =>
    match s.takeWhile tables.wordChar, s.dropWhile tables.wordChar with
    | c :: name, '\x7d' :: s => submatch found (c :: name) ++ s
    | _, _ => '$' :: '\x7b' :: s
  | s =>
    match s.takeWhile tables.wordChar with
    | [] => '$' :: s
    | name => submatch found name ++ s.dropWhile tables.wordChar

/-- An empty piece before another one is `$$`. -/
def expandPieces (tables : Tables) (found : List Char) : List (List Char) → List Char
  | [] => []
  | [] :: piece :: pieces => '$' :: (piece ++ expandPieces tables found pieces)
  | piece :: pieces => reference tables found piece ++ expandPieces tables found pieces

def expand (tables : Tables) (found template : List Char) : List Char :=
  match template.splitOn '$' with
  | [] => []
  | piece :: pieces => piece ++ expandPieces tables found pieces

/-- The loop over the text; an empty match right behind a match does not count. -/
def replaceLoop (same : Char → Char → Bool) (r : Regexp) (repl : List Char → List Char) :
    Nat → Bool → Bool → List Char → List Char
  | 0, _, _, s => s
  | fuel + 1, start, behind, s =>
    match r.run same done start s, s with
    | none, [] => []
    | none, c :: s => c :: replaceLoop same r repl fuel false false s
    | some rest, s =>
      if rest.length < s.length then
        repl (s.take (s.length - rest.length)) ++ replaceLoop same r repl fuel false true rest
      else
        (if behind then [] else repl []) ++
          match s with
          | [] => []
          | c :: s => c :: replaceLoop same r repl fuel false false s

def replaceAllString (tables : Tables) (pattern template text : String) : Option String :=
  (compile tables pattern).map fun compiled => String.ofList
    (replaceLoop compiled.2 compiled.1 (fun found => expand tables found template.toList)
      (text.toList.length + 1) true false text.toList)

variable {same : Char → Char → Bool} {k : Continuation} {start : Bool} {p s t rest : List Char}
  {r : Regexp} {outer : Option Regexp} {c : Char}

/-! ## Literal characters -/

/-- The characters one after the other. -/
def chars (r : Regexp) (p : List Char) : Regexp := p.foldl (fun r c => r.cat (char c)) r

theorem parse_char (h : isMeta c = false) :
    parse outer r (c :: s) = parse outer (r.cat (char c)) s := by
  conv_lhs => unfold parse
  split
  all_goals simp_all [isMeta]

/-- A text in which all that means something is escaped is read as its characters. -/
theorem parse_literals {escaped : Char → Bool} (hescaped : ∀ c, escaped c → isPunctuation c)
    (hmeta : ∀ c, isMeta c → escaped c) : ∀ (p : List Char) (r : Regexp),
    parse outer r ((p.flatMap fun c => if escaped c then ['\\', c] else [c]) ++ s)
      = parse outer (chars r p) s
  | [], _ => rfl
  | c :: p, r => by
    rw [List.flatMap_cons, List.append_assoc]
    refine Eq.trans ?_ (parse_literals hescaped hmeta p (r.cat (char c)))
    split
    next h => rw [List.cons_append, List.singleton_append, parse, if_pos (hescaped c h)]
    next h => exact parse_char (Bool.eq_false_iff.mpr fun hc => h (hmeta c hc))

theorem run_chars (k : Continuation) : ∀ (p : List Char) (r : Regexp),
    (chars r p).run same k = r.run same (p.foldr (fun c => (char c).run same) k)
  | [], _ => rfl
  | c :: p, r => (run_chars k p (r.cat (char c))).trans (funext₂ fun _ _ => rfl)

/-- Literal characters are read one by one. -/
theorem foldr_char_some_iff {x : List Char} :
    p.foldr (fun c => (char c).run same) k start s = some x ↔ ∃ t rest, s = t ++ rest ∧
      List.Forall₂ (fun c d => same c d = true) p t ∧ k (start && p.isEmpty) rest = some x := by
  induction p generalizing start s with
  | nil => simp
  | cons c p ih =>
    cases s with
    | nil => simp [run]
    | cons d s =>
      simp only [List.foldr_cons, run, List.forall₂_cons_left_iff]
      constructor
      · intro h
        split at h
        next hsame =>
          obtain ⟨t, rest, rfl, hall, hk⟩ := ih.mp h
          exact ⟨d :: t, rest, rfl, ⟨d, t, hsame, hall, rfl⟩, by simpa using hk⟩
        · cases h
      · intro h
        obtain ⟨_, rest, hs, ⟨d', t, hsame, hall, rfl⟩, hk⟩ := h
        obtain ⟨rfl, rfl⟩ := List.cons.inj hs
        rw [if_pos hsame]
        exact ih.mpr ⟨t, rest, rfl, hall, by simpa using hk⟩

/-- Behind `^`, literal characters are read from the beginning of the text only. -/
theorem run_anchored_iff {x : List Char} :
    (chars (empty.cat bol) p).run same k start s = some x ↔ start = true ∧ ∃ t rest, s = t ++ rest ∧
      List.Forall₂ (fun c d => same c d = true) p t ∧ k p.isEmpty rest = some x := by
  rw [run_chars]
  cases start with
  | false => simp [run]
  | true =>
    rw [← Bool.true_and p.isEmpty]
    exact foldr_char_some_iff.trans (and_iff_right rfl).symm

theorem run_anchored_none (s : List Char) : (chars (empty.cat bol) p).run same k false s = none :=
  Option.eq_none_iff_forall_ne_some.mpr fun _ hx => nomatch (run_anchored_iff.mp hx).1

/-- An expression that does not match behind the beginning is searched there only. -/
theorem search_anchored (h : ∀ s, r.run same done false s = none) (s : List Char) :
    search same r true s = (r.run same done true s).isSome := by
  have hno : ∀ s, search same r false s = false := by
    intro s
    induction s with
    | nil => simp [search, h]
    | cons c s ih => simp [search, h, ih]
  cases s with
  | nil => rfl
  | cons c s => simp [search, hno]

theorem dotsThen_isSome : ∀ (start : Bool) (s : List Char),
    (dotsThen (eol.run same done) start s).isSome ↔ '\n' ∉ s
  | _, [] => by simp [dotsThen, run, done]
  | start, c :: s => by
    unfold dotsThen
    split
    next hc => simp [hc, run]
    next hc =>
      have hrest : eol.run same done start (c :: s) = none := by simp [run]
      rw [hrest, Option.or_none, dotsThen_isSome false s]
      simp [Ne.symm hc]

/-! ## Replacing -/

variable {repl : List Char → List Char}

theorem replaceLoop_anchored (h : ∀ s, r.run same done false s = none) :
    ∀ (fuel : Nat) (behind : Bool) (s : List Char), replaceLoop same r repl fuel false behind s = s
  | 0, _, _ => rfl
  | _ + 1, _, [] => by simp [replaceLoop, h]
  | fuel + 1, _, c :: s => by simp [replaceLoop, h, replaceLoop_anchored h fuel false s]

/-- An expression that matches at the beginning only is replaced there. -/
theorem replaceLoop_run (h : ∀ s, r.run same done false s = none) (fuel : Nat)
    (hrun : r.run same done true (t ++ rest) = some rest) :
    replaceLoop same r repl (fuel + 1) true false (t ++ rest) = repl t ++ rest := by
  unfold replaceLoop
  rw [hrun]
  cases t with
  | nil =>
    cases rest with
    | nil => simp
    | cons c rest => simp [replaceLoop_anchored h]
  | cons c t =>
    have htake : (c :: t ++ rest).length - rest.length = (c :: t).length := by
      rw [List.length_append, Nat.add_sub_cancel]
    have hless : rest.length < (c :: t ++ rest).length := by
      simp only [List.length_append, List.length_cons]
      omega
    simp only [htake, List.take_left, replaceLoop_anchored h, if_pos hless]

/-! ## Templates -/

variable (tables : Tables) {found : List Char}

theorem submatch_length (hfound : found.length ≤ 1) (name : List Char) :
    (submatch found name).length ≤ name.length := by
  unfold submatch
  split
  next h =>
    rw [h]
    exact hfound
  · exact Nat.zero_le _

theorem reference_length (hfound : found.length ≤ 1) (piece : List Char) :
    (reference tables found piece).length ≤ piece.length + 1 := by
  have hcut (s : List Char) :=
    congrArg List.length (List.takeWhile_append_dropWhile (p := tables.wordChar) (l := s))
  unfold reference
  split
  next s =>
    have hs := hcut s
    split
    next c name s' htake hdrop =>
      rw [htake, hdrop] at hs
      have hsub := submatch_length hfound (c :: name)
      simp only [List.length_append, List.length_cons] at hs hsub ⊢
      omega
    · simp
  · have hs := hcut piece
    split
    · simp
    · have hsub := submatch_length hfound (piece.takeWhile tables.wordChar)
      simp only [List.length_append] at hs hsub ⊢
      omega

theorem expandPieces_length (hfound : found.length ≤ 1) (pieces : List (List Char)) :
    (expandPieces tables found pieces).length ≤ (pieces.map fun piece => piece.length + 1).sum := by
  fun_induction expandPieces tables found pieces with
  | case1 => simp
  | case2 piece pieces ih =>
    simp only [List.length_cons, List.length_append, List.map_cons, List.sum_cons]
    omega
  | case3 piece pieces _ ih =>
    have href := reference_length tables hfound piece
    simp only [List.length_append, List.map_cons, List.sum_cons]
    omega

theorem expand_length (hfound : found.length ≤ 1) (template : List Char) :
    (expand tables found template).length ≤ template.length := by
  have hjoin : ∀ (piece : List Char) (pieces : List (List Char)),
      (List.intercalate ['$'] (piece :: pieces)).length
        = piece.length + (pieces.map fun piece => piece.length + 1).sum := by
    intro piece pieces
    induction pieces generalizing piece with
    | nil => simp
    | cons next pieces ih =>
      simp [ih]
      omega
  have hsame : (List.intercalate ['$'] (template.splitOn '$')).length = template.length :=
    congrArg List.length (List.intercalate_splitOn '$')
  unfold expand
  split
  · exact Nat.zero_le _
  next piece pieces hsplit =>
    rw [hsplit, hjoin] at hsame
    have hpieces := expandPieces_length tables hfound pieces
    rw [List.length_append]
    omega

end Regexp
