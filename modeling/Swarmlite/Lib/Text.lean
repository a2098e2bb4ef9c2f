/-!
# Text — the string operations of the Rust standard library that the model uses

Each operation is defined on the characters of the string by structural
recursion, so that closed terms evaluate in the kernel. `splitOnce` cuts at the
first occurrence of the separator and `rsplitOnce` at the last one, as
`str::split_once` and `str::rsplit_once` do; `trim` removes the characters of
the Unicode `White_Space` property from both ends.
-/

namespace Text

/-- `char::is_whitespace`: the Unicode `White_Space` property. -/
def isWhitespace (c : Char) : Bool :=
  let n := c.toNat
  (9 ≤ n && n ≤ 13) || n == 32 || n == 0x85 || n == 0xA0 || n == 0x1680
    || (0x2000 ≤ n && n ≤ 0x200A) || n == 0x2028 || n == 0x2029 || n == 0x202F
    || n == 0x205F || n == 0x3000

/-- `char::is_control`: the Unicode `Cc` category. -/
def isControl (c : Char) : Bool :=
  let n := c.toNat
  n < 32 || (127 ≤ n && n ≤ 159)

/-- `str::trim`. -/
def trim (s : String) : String :=
  String.ofList
    ((s.toList.dropWhile isWhitespace).reverse.dropWhile isWhitespace).reverse

/-- Characters before and after the first occurrence of `sep`. -/
def splitChars (sep : List Char) : List Char → Option (List Char × List Char)
  | [] => if sep.isEmpty then some ([], []) else none
  | c :: cs =>
    if sep.isPrefixOf (c :: cs) then some ([], (c :: cs).drop sep.length)
    else (splitChars sep cs).map fun p => (c :: p.1, p.2)

/-- `str::split_once`. -/
def splitOnce (sep s : String) : Option (String × String) :=
  (splitChars sep.toList s.toList).map fun p => (String.ofList p.1, String.ofList p.2)

/-- `str::rsplit_once` for a one-character separator. -/
def rsplitOnce (sep : Char) (s : String) : Option (String × String) :=
  (splitChars [sep] s.toList.reverse).map fun p =>
    (String.ofList p.2.reverse, String.ofList p.1.reverse)

/-- `str::starts_with`. -/
def startsWith (pre s : String) : Bool := pre.toList.isPrefixOf s.toList

/-- `str::strip_prefix`. -/
def dropPrefix? (pre s : String) : Option String :=
  if startsWith pre s then some (String.ofList (s.toList.drop pre.toList.length)) else none

/-- Whether `sub` occurs in the characters. -/
def hasInfix (sub : List Char) : List Char → Bool
  | [] => sub.isEmpty
  | c :: cs => sub.isPrefixOf (c :: cs) || hasInfix sub cs

/-- `str::contains`. -/
def contains (sub s : String) : Bool := hasInfix sub.toList s.toList

/-- `str::trim_end_matches` for one character. -/
def trimEndMatches (c : Char) (s : String) : String :=
  String.ofList (s.toList.reverse.dropWhile (· == c)).reverse

/-- `str::to_ascii_lowercase`. -/
def toAsciiLowercase (s : String) : String :=
  String.ofList (s.toList.map fun c => if 'A' ≤ c ∧ c ≤ 'Z' then Char.ofNat (c.toNat + 32) else c)

/-- `str::parse` for an unsigned integer of at most `limit`. -/
def parseUnsigned (limit : Nat) (s : String) : Option Nat :=
  let digits := match s.toList with
    | '+' :: rest => rest
    | chars => chars
  if digits.isEmpty || !digits.all Char.isDigit then none
  else
    let value := digits.foldl (fun value c => value * 10 + (c.toNat - 48)) 0
    if value ≤ limit then some value else none

/-- The length in bytes of the UTF-8 encoding, `str::len`. -/
def byteLength (s : String) : Nat := s.utf8ByteSize

/-- `{:?}` of a string: double quotes around it, with quotes, backslashes and
the usual control characters escaped. -/
def quoted (s : String) : String :=
  String.ofList ('"' :: (s.toList.flatMap fun c =>
    if c = '"' then ['\\', '"'] else if c = '\\' then ['\\', '\\']
    else if c = '\n' then ['\\', 'n'] else if c = '\r' then ['\\', 'r']
    else if c = '\t' then ['\\', 't'] else [c]) ++ ['"'])

/-- A lowered letter is not an upper-case one. -/
theorem lowered_not_upper {c : Char} (h : 'A' ≤ c ∧ c ≤ 'Z') :
    ¬ ('A' ≤ Char.ofNat (c.toNat + 32) ∧ Char.ofNat (c.toNat + 32) ≤ 'Z') := by
  have hlet : ∀ n < 91, 65 ≤ n →
      ¬ ('A' ≤ Char.ofNat (n + 32) ∧ Char.ofNat (n + 32) ≤ 'Z') := by decide
  exact hlet c.toNat (Nat.lt_succ_of_le h.2) h.1

theorem toAsciiLowercase_idem (s : String) :
    toAsciiLowercase (toAsciiLowercase s) = toAsciiLowercase s := by
  unfold toAsciiLowercase
  rw [String.toList_ofList, List.map_map]
  congr 1
  refine List.map_congr_left fun c _ => ?_
  dsimp only [Function.comp]
  split
  next h => rw [if_neg (lowered_not_upper h)]
  · rfl

/-- Lowering a character makes no sign out of a letter. -/
theorem lowered_eq_iff {c sign : Char} (hsign : sign.toNat < 65) :
    (if 'A' ≤ c ∧ c ≤ 'Z' then Char.ofNat (c.toNat + 32) else c) = sign ↔ c = sign := by
  split
  next h =>
    have hlet : ∀ n < 91, 65 ≤ n → 65 ≤ (Char.ofNat (n + 32)).toNat := by decide
    have hlow := hlet c.toNat (Nat.lt_succ_of_le h.2) h.1
    have hc : 65 ≤ c.toNat := h.1
    constructor
    · intro heq
      rw [heq] at hlow
      omega
    · intro heq
      rw [heq] at hc
      omega
  · rfl

/-- A map that keeps the separators keeps the pieces. -/
theorem splitOn_map {f : Char → Char} {sep : Char} (hf : ∀ c, f c = sep ↔ c = sep)
    (l : List Char) : (l.map f).splitOn sep = (l.splitOn sep).map (List.map f) := by
  unfold List.splitOn
  induction l with
  | nil => rfl
  | cons c l ih =>
    rw [List.map_cons, List.splitOnP_cons_eq_if_modifyHead, List.splitOnP_cons_eq_if_modifyHead, ih]
    by_cases hc : c = sep
    · simp [hc, (hf sep).mpr rfl]
    · have hfc : f c ≠ sep := fun h => hc ((hf c).mp h)
      simp only [beq_iff_eq, hc, hfc, if_false]
      cases l.splitOnP (· == sep) <;> rfl

example : splitOnce "==" "node.labels.zone == eu==west" = some ("node.labels.zone ", " eu==west") := by
  decide +kernel

example : rsplitOnce ':' "0.0.0.0:80" = some ("0.0.0.0", "80") := by
  decide +kernel

example : parseUnsigned 65535 "+443" = some 443 := by
  decide +kernel

end Text
