import Mathlib.Data.List.Basic
import Swarmlite.Stack.Validate

/-!
# Resource quantities — `stack/compose.rs`

`parse_decimal_scaled` reads a decimal such as `0.5` and multiplies it by the size of its unit
in checked 64-bit arithmetic. It multiplies before it divides: the digits of the fraction times
the unit, over a power of ten. What it returns is exact (`parseDecimalScaled_ok_iff`), but a
quantity that fits may be refused because a value on the way to it does not: twenty digits after
the dot are too many even if they are zeros, and so are eleven for half a pebibyte. `Workable`
says that the values on the way fit, and **`quantities_exact_iff`** that this is all there is.

Mirroring notes:
- Values are the texts `scalar_to_string` makes of YAML scalars.
- The denominator is a fold over the digits of the fraction, one factor of ten for each.
-/

namespace Swarmlite

open Loop

/-- The result of a checked `u64` operation. -/
def checked (error : String) (value : Nat) : Except String Nat :=
  if value < 2 ^ 64 then .ok value else .error error

/-- `str::parse::<u64>` of decimal digits. -/
def parseU64 (digits : List Char) : Except String Nat :=
  ((Text.parseUnsigned (2 ^ 64 - 1) (String.ofList digits)).map Except.ok).getD
    (.error "number too large to fit in target type")

/-- The digits before the dot and those after it. -/
def decimalParts (value : String) : Except String (List Char × Option (List Char)) := do
  ensure (!value.toList.isEmpty && Text.trim value == value && !Text.startsWith "+" value
    && !Text.startsWith "-" value) "expected a non-negative decimal"
  let parts := value.toList.splitOn '.'
  let whole := parts.headD []
  let fraction := parts[1]?
  ensure (parts.length ≤ 2 && !(whole.isEmpty && fraction.isNone) && whole.all Char.isDigit
    && fraction.all fun fraction => !fraction.isEmpty && fraction.all Char.isDigit)
    "expected a decimal"
  .ok (whole, fraction)

def scaleDecimal (whole : List Char) (fraction : Option (List Char)) (scale : Nat) :
    Except String Nat := do
  let whole ← (if whole.isEmpty then .ok 0 else parseU64 whole : Except String Nat)
  let scaled ← checked "decimal value is too large" (whole * scale)
  match fraction with
  | none => .ok scaled
  | some fraction =>
    let denominator ← fraction.foldlM
      (fun value _ => checked "decimal precision is too large" (value * 10)) 1
    let numerator ← parseU64 fraction
    let scaledFraction ← checked "decimal value is too large" (numerator * scale)
    ensure (scaledFraction % denominator = 0) "decimal cannot be represented exactly"
    checked "decimal value is too large" (scaled + scaledFraction / denominator)

def parseDecimalScaled (value : String) (scale : Nat) : Except String Nat := do
  let (whole, fraction) ← decimalParts value
  scaleDecimal whole fraction scale

def memoryUnits : List (String × Nat) :=
  [("", 1), ("b", 1), ("k", 2 ^ 10), ("kb", 2 ^ 10), ("kib", 2 ^ 10), ("m", 2 ^ 20),
    ("mb", 2 ^ 20), ("mib", 2 ^ 20), ("g", 2 ^ 30), ("gb", 2 ^ 30), ("gib", 2 ^ 30),
    ("t", 2 ^ 40), ("tb", 2 ^ 40), ("tib", 2 ^ 40), ("p", 2 ^ 50), ("pb", 2 ^ 50),
    ("pib", 2 ^ 50)]

/-- The characters of an amount, before its unit. -/
def isAmount (c : Char) : Bool := c.isDigit || c == '.'

def normalizeMemory (name field value : String) (allowUnlimited : Bool) : Except String Int :=
  if allowUnlimited && value == "-1" then .ok (-1)
  else do
    let amount := String.ofList (value.toList.takeWhile isAmount)
    let unit := String.ofList (value.toList.dropWhile isAmount)
    match memoryUnits.lookup (Text.toAsciiLowercase unit) with
    | none => .error s!"service {name}: invalid {field} unit in {Text.quoted value}"
    | some multiplier =>
      let bytes ← withContext s!"service {name}: invalid {field} {Text.quoted value}"
        (parseDecimalScaled amount multiplier)
      ensure (bytes != 0) s!"service {name}: {field} must be positive"
      ensure (bytes < 2 ^ 63) s!"service {name}: {field} is too large"
      .ok bytes

/-! ## What a decimal means -/

/-- A plain decimal: digits, a dot and digits, or both. -/
structure Decimal (value : String) (whole : List Char) (fraction : Option (List Char)) : Prop where
  text : value.toList = whole ++ fraction.elim [] ('.' :: ·)
  nonempty : whole ≠ [] ∨ fraction ≠ none
  whole : whole.all Char.isDigit
  fraction : ∀ digits ∈ fraction, digits ≠ [] ∧ digits.all Char.isDigit

def digitsValue (digits : List Char) : Nat :=
  digits.foldl (fun value c => value * 10 + (c.toNat - 48)) 0

/-- The text is a decimal, and times the scale it is the integer `n`. -/
def Denotes (value : String) (scale n : Nat) : Prop :=
  ∃ whole fraction, Decimal value whole fraction ∧
    (digitsValue whole * 10 ^ (fraction.getD []).length + digitsValue (fraction.getD [])) * scale
      = n * 10 ^ (fraction.getD []).length

/-- The digits before the dot, the power of ten for those after it and their multiple of the
scale all fit in 64 bits. -/
def Workable (value : String) (scale : Nat) : Prop :=
  ∀ whole fraction, Decimal value whole fraction → digitsValue whole < 2 ^ 64 ∧
    10 ^ (fraction.getD []).length < 2 ^ 64 ∧ digitsValue (fraction.getD []) * scale < 2 ^ 64

section Arithmetic

variable {error value : String} {scale n : Nat} {whole digits : List Char}
  {fraction : Option (List Char)}

theorem checked_ok_iff {v : Nat} : checked error v = .ok n ↔ v < 2 ^ 64 ∧ v = n := by
  unfold checked
  split
  next h => exact ⟨fun heq => ⟨h, Except.ok.inj heq⟩, fun heq => congrArg _ heq.2⟩
  next h => exact ⟨(nomatch ·), fun heq => absurd heq.1 h⟩

theorem digitsValue_lt (h : digits.all Char.isDigit) : digitsValue digits < 10 ^ digits.length := by
  have hacc : ∀ (digits : List Char) (acc : Nat), digits.all Char.isDigit →
      digits.foldl (fun value c => value * 10 + (c.toNat - 48)) acc
        < (acc + 1) * 10 ^ digits.length := by
    intro digits
    induction digits with
    | nil => simp
    | cons c digits ih =>
      intro acc h
      simp only [List.all_cons, Bool.and_eq_true, Char.isDigit, decide_eq_true_eq] at h
      have hc : c.toNat - 48 < 10 := by
        have hnine : c.toNat ≤ 57 := h.1.2
        omega
      refine (ih _ h.2).trans_le ?_
      rw [List.length_cons, pow_succ', ← mul_assoc]
      refine Nat.mul_le_mul_right _ ?_
      dsimp only
      omega
  unfold digitsValue
  simpa using hacc digits 0 h

theorem parseU64_eq (hne : digits ≠ []) (h : digits.all Char.isDigit) :
    parseU64 digits = checked "number too large to fit in target type" (digitsValue digits) := by
  have hpar : Text.parseUnsigned (2 ^ 64 - 1) (String.ofList digits)
      = if digitsValue digits ≤ 2 ^ 64 - 1 then some (digitsValue digits) else none := by
    unfold Text.parseUnsigned
    rw [String.toList_ofList]
    dsimp only
    split
    · simp [Char.isDigit] at h
    · rw [h, List.isEmpty_eq_false_iff.mpr hne]
      rfl
  unfold parseU64 checked
  rw [hpar]
  by_cases hle : digitsValue digits ≤ 2 ^ 64 - 1
  · rw [if_pos hle, if_pos (by omega)]
    rfl
  · rw [if_neg hle, if_neg (by omega)]
    rfl

/-- One factor of ten for each digit, as long as the product fits. -/
theorem denominator_ok_iff {v d : Nat} (hv : v < 2 ^ 64) :
    digits.foldlM (fun value _ => checked error (value * 10)) v = .ok d ↔
      v * 10 ^ digits.length < 2 ^ 64 ∧ v * 10 ^ digits.length = d := by
  induction digits generalizing v with
  | nil => simpa [pure, Except.pure] using fun _ => hv
  | cons c digits ih =>
    rw [List.foldlM_cons, bind_ok_iff, List.length_cons, pow_succ', ← mul_assoc]
    constructor
    · intro h
      obtain ⟨next, hnext, hrest⟩ := h
      obtain ⟨hfits, rfl⟩ := checked_ok_iff.mp hnext
      exact (ih hfits).mp hrest
    · intro h
      have hfits : v * 10 < 2 ^ 64 :=
        (Nat.le_mul_of_pos_right _ (Nat.pow_pos (by decide))).trans_lt h.1
      exact ⟨v * 10, checked_ok_iff.mpr ⟨hfits, rfl⟩, (ih hfits).mpr h⟩

/-- **The arithmetic is exact, as far as it goes.** -/
theorem scaleDecimal_ok_iff (hdec : Decimal value whole fraction) :
    scaleDecimal whole fraction scale = .ok n ↔
      (digitsValue whole < 2 ^ 64 ∧ 10 ^ (fraction.getD []).length < 2 ^ 64 ∧
        digitsValue (fraction.getD []) * scale < 2 ^ 64) ∧
      (digitsValue whole * 10 ^ (fraction.getD []).length + digitsValue (fraction.getD [])) * scale
        = n * 10 ^ (fraction.getD []).length ∧ n < 2 ^ 64 := by
  have hwho : ∀ v, (if whole.isEmpty then .ok 0 else parseU64 whole) = .ok v ↔
      digitsValue whole < 2 ^ 64 ∧ digitsValue whole = v := by
    intro v
    cases whole with
    | nil => simp [digitsValue]
    | cons c rest =>
      rw [parseU64_eq (List.cons_ne_nil c rest) hdec.whole]
      exact checked_ok_iff
  unfold scaleDecimal
  simp only [bind_ok_iff, hwho, checked_ok_iff]
  cases fraction with
  | none =>
    simp only [Option.getD_none, List.length_nil, pow_zero, mul_one]
    constructor
    · intro h
      obtain ⟨_, ⟨hfits, rfl⟩, _, ⟨hsca, rfl⟩, hn⟩ := h
      cases hn
      exact ⟨⟨hfits, by decide, by simp [digitsValue]⟩, by simp [digitsValue], hsca⟩
    · intro h
      obtain ⟨⟨hfits, _⟩, hn, hn64⟩ := h
      rw [show digitsValue [] = 0 from rfl, Nat.add_zero] at hn
      exact ⟨_, ⟨hfits, rfl⟩, _, ⟨hn ▸ hn64, rfl⟩, congrArg Except.ok hn⟩
  | some digits =>
    obtain ⟨hne, hdig⟩ := hdec.fraction digits rfl
    have hlt := digitsValue_lt hdig
    simp only [bind_ok_iff, checked_ok_iff, ensure_ok_iff, parseU64_eq hne hdig,
      denominator_ok_iff (show 1 < 2 ^ 64 by decide), one_mul, decide_eq_true_eq,
      Option.getD_some]
    generalize digitsValue whole = w, digitsValue digits = f, 10 ^ digits.length = d at *
    constructor
    · intro h
      obtain ⟨_, ⟨hw, rfl⟩, _, ⟨hsca, rfl⟩, _, ⟨hd, rfl⟩, _, ⟨hf, rfl⟩, _, ⟨hfs, rfl⟩, _,
        hexa, hn, rfl⟩ := h
      refine ⟨⟨hw, hd, hfs⟩, ?_, hn⟩
      rw [Nat.add_mul, Nat.add_mul, Nat.div_mul_cancel (Nat.dvd_of_mod_eq_zero hexa),
        Nat.mul_right_comm]
    · intro h
      obtain ⟨⟨hw, hd, hfs⟩, hn, hn64⟩ := h
      have hpos : 0 < d := by omega
      rw [Nat.add_mul, Nat.mul_right_comm] at hn
      have hle : w * scale ≤ n := Nat.le_of_mul_le_mul_right (hn ▸ Nat.le_add_right _ _) hpos
      have hfra : f * scale = (n - w * scale) * d := by
        rw [Nat.sub_mul]
        omega
      refine ⟨w, ⟨hw, rfl⟩, _, ⟨by omega, rfl⟩, d, ⟨hd, rfl⟩, f, ⟨by omega, rfl⟩, _, ⟨hfs, rfl⟩,
        (), ?_, ?_⟩
      · rw [hfra, Nat.mul_mod_left]
      · rw [hfra, Nat.mul_div_cancel _ hpos]
        omega

end Arithmetic

/-! ## Reading the text -/

section Reading

variable {value amount unit : String} {scale n m : Nat} {whole : List Char}
  {fraction : Option (List Char)}

theorem dot_not_mem {digits : List Char} (h : digits.all Char.isDigit) : '.' ∉ digits :=
  fun hmem => absurd (List.all_eq_true.mp h '.' hmem) (by decide)

theorem Decimal.parts (h : Decimal value whole fraction) :
    value.toList.splitOn '.' = whole :: fraction.toList := by
  have htext : value.toList = ['.'].intercalate (whole :: fraction.toList) := by
    rw [h.text]
    cases fraction <;> simp [List.intercalate]
  rw [htext, List.splitOn_intercalate '.' ?_ (List.cons_ne_nil _ _)]
  intro part hpart
  rcases List.mem_cons.mp hpart with rfl | hpart
  · exact dot_not_mem h.whole
  · exact dot_not_mem (h.fraction part (Option.mem_toList.mp hpart)).2

theorem Decimal.chars (h : Decimal value whole fraction) : ∀ c ∈ value.toList, isAmount c := by
  intro c hc
  have hdig : ∀ digits : List Char, digits.all Char.isDigit → c ∈ digits → isAmount c := by
    intro digits hall hmem
    simp [isAmount, List.all_eq_true.mp hall c hmem]
  rw [h.text, List.mem_append] at hc
  rcases hc with hc | hc
  · exact hdig whole h.whole hc
  · cases fraction with
    | none => cases hc
    | some digits =>
      rcases List.mem_cons.mp hc with rfl | hc
      · rfl
      · exact hdig digits (h.fraction digits rfl).2 hc

theorem Decimal.ne_nil (h : Decimal value whole fraction) : value.toList ≠ [] := by
  rw [h.text]
  rcases h.nonempty with hwho | hsome
  · simp [hwho]
  · cases fraction <;> simp at hsome ⊢

theorem isAmount_range {c : Char} (h : isAmount c) : 46 ≤ c.toNat ∧ c.toNat ≤ 57 := by
  rcases Bool.or_eq_true_iff.mp h with hdig | hdot
  · simp only [Char.isDigit, Bool.and_eq_true, decide_eq_true_eq] at hdig
    have hzero : 48 ≤ c.toNat := hdig.1
    exact ⟨by omega, hdig.2⟩
  · rw [beq_iff_eq.mp hdot]
    decide

/-- No text of amounts has blanks or a sign around it. -/
theorem plain_of_amount (hne : value.toList ≠ []) (h : ∀ c ∈ value.toList, isAmount c) :
    (!value.toList.isEmpty && Text.trim value == value && !Text.startsWith "+" value
      && !Text.startsWith "-" value) = true := by
  have hbla : ∀ l : List Char, (∀ c ∈ l, isAmount c) → l.dropWhile Text.isWhitespace = l := by
    intro l hl
    cases l with
    | nil => rfl
    | cons c l =>
      have hran := isAmount_range (hl c (List.mem_cons_self ..))
      refine List.dropWhile_cons_of_neg ?_
      simp [Text.isWhitespace]
      omega
  have htrim : Text.trim value = value := by
    unfold Text.trim
    rw [hbla _ h, hbla _ fun c hc => h c (List.mem_reverse.mp hc), List.reverse_reverse,
      String.ofList_toList]
  have hsign : ∀ sign : Char, sign.toNat < 46 → ([sign].isPrefixOf value.toList) = false := by
    intro sign hsign
    obtain ⟨c, rest, hval⟩ := List.exists_cons_of_ne_nil hne
    have hran := isAmount_range (h c (hval ▸ List.mem_cons_self ..))
    have hc : sign ≠ c := fun heq => by subst heq; omega
    simp [hval, List.isPrefixOf, hc]
  simp [htrim, List.isEmpty_eq_false_iff.mpr hne, Text.startsWith, hsign '+' (by decide),
    hsign '-' (by decide)]

theorem decimalParts_ok_iff :
    decimalParts value = .ok (whole, fraction) ↔ Decimal value whole fraction := by
  unfold decimalParts
  simp only [bind_ok_iff, ensure_ok_iff]
  constructor
  · intro h
    obtain ⟨_, _, _, hpar, heq⟩ := h
    cases heq
    have htext : ['.'].intercalate (value.toList.splitOn '.') = value.toList :=
      List.intercalate_splitOn '.'
    have hne := List.splitOn_ne_nil '.' value.toList
    generalize value.toList.splitOn '.' = parts at *
    match parts with
    | [whole] =>
      simp [List.intercalate] at hpar htext
      exact ⟨by simp [htext], .inl (by simpa using hpar.1), by simpa using hpar.2, by simp⟩
    | [whole, digits] =>
      simp [List.intercalate] at hpar htext
      exact ⟨by simp [htext], .inr (by simp), by simpa using hpar.1, by simpa using hpar.2⟩
    | _ :: _ :: _ :: _ => simp at hpar
  · intro h
    refine ⟨(), plain_of_amount h.ne_nil h.chars, (), ?_, ?_⟩
    · rw [h.parts]
      have hnon := h.nonempty
      have hwho := h.whole
      have hfra := h.fraction
      cases fraction <;> simp_all
    · rw [h.parts]
      cases fraction <;> rfl

/-- **What is returned is exact, and refused is also what does not work out in 64 bits.** -/
theorem parseDecimalScaled_ok_iff : parseDecimalScaled value scale = .ok n ↔
      (Denotes value scale n ∧ n < 2 ^ 64) ∧ Workable value scale := by
  unfold parseDecimalScaled
  rw [bind_ok_iff]
  constructor
  · intro h
    obtain ⟨⟨whole, fraction⟩, hpar, hsca⟩ := h
    have hdec := decimalParts_ok_iff.mp hpar
    obtain ⟨hwork, hexa, hfits⟩ := (scaleDecimal_ok_iff hdec).mp hsca
    refine ⟨⟨⟨whole, fraction, hdec, hexa⟩, hfits⟩, fun whole' fraction' hoth => ?_⟩
    -- a text is a decimal in one way only
    have hsame := hpar.symm.trans (decimalParts_ok_iff.mpr hoth)
    cases hsame
    exact hwork
  · intro h
    obtain ⟨⟨⟨whole, fraction, hdec, hexa⟩, hfits⟩, hwork⟩ := h
    exact ⟨(whole, fraction), decimalParts_ok_iff.mpr hdec,
      (scaleDecimal_ok_iff hdec).mpr ⟨hwork whole fraction hdec, hexa, hfits⟩⟩

/-- The unit has no character of an amount, so the text is cut between them. -/
theorem unit_chars {entry : String × Nat} (hent : entry ∈ memoryUnits)
    (hunit : Text.toAsciiLowercase unit = entry.1) : ∀ c ∈ unit.toList, isAmount c = false := by
  have huni : ∀ entry ∈ memoryUnits, ∀ c ∈ entry.1.toList, isAmount c = false := by
    simp [memoryUnits, isAmount]
  intro c hc
  refine Bool.eq_false_iff.mpr fun hamo => ?_
  have hran := isAmount_range hamo
  have hsame : (if 'A' ≤ c ∧ c ≤ 'Z' then Char.ofNat (c.toNat + 32) else c) = c := by
    refine if_neg fun hupp => ?_
    have hlet : 65 ≤ c.toNat := hupp.1
    omega
  have hmem : c ∈ (Text.toAsciiLowercase unit).toList := by
    unfold Text.toAsciiLowercase
    rw [String.toList_ofList]
    exact List.mem_map.mpr ⟨c, hc, hsame⟩
  rw [huni entry hent c (hunit ▸ hmem)] at hamo
  cases hamo

theorem normalizeMemory_eq {entry : String × Nat} {name field : String} {allowUnlimited : Bool}
    (hent : entry ∈ memoryUnits) (hunit : Text.toAsciiLowercase unit = entry.1)
    (hpar : parseDecimalScaled amount entry.2 = .ok n) (hpos : 0 < n) (hfits : n < 2 ^ 63) :
    normalizeMemory name field (amount ++ unit) allowUnlimited = .ok (n : Int) := by
  obtain ⟨⟨⟨whole, fraction, hdec, _⟩, _⟩, _⟩ := parseDecimalScaled_ok_iff.mp hpar
  have hcha := hdec.chars
  have huniC := unit_chars hent hunit
  have huniS : unit.toList.takeWhile isAmount = [] ∧
      unit.toList.dropWhile isAmount = unit.toList := by
    cases hlist : unit.toList with
    | nil => exact ⟨rfl, rfl⟩
    | cons c rest => simp [huniC c (hlist ▸ List.mem_cons_self ..)]
  have hloo : ∀ entry ∈ memoryUnits, memoryUnits.lookup entry.1 = some entry.2 := by
    decide +kernel
  have hlim : (amount ++ unit == "-1") = false := by
    refine beq_eq_false_iff_ne.mpr fun heq => ?_
    obtain ⟨c, rest, hamo⟩ := List.exists_cons_of_ne_nil hdec.ne_nil
    have hran := isAmount_range (hcha c (hamo ▸ List.mem_cons_self ..))
    have hfir := congrArg (fun text : String => text.toList.head?) heq
    rw [String.toList_append, hamo] at hfir
    have hmin : c = '-' := Option.some_inj.mp (hfir.trans (by decide))
    rw [hmin] at hran
    exact absurd hran.1 (by decide)
  unfold normalizeMemory
  rw [hlim, Bool.and_false, if_neg Bool.false_ne_true]
  simp only [String.toList_append, List.takeWhile_append_of_pos hcha,
    List.dropWhile_append_of_pos hcha, huniS, List.append_nil, String.ofList_toList, hunit,
    hloo entry hent, hpar]
  refine bind_ok_iff.mpr ⟨n, rfl, bind_ok_iff.mpr ⟨(), ensure_ok_iff.mpr ?_,
    bind_ok_iff.mpr ⟨(), ensure_ok_iff.mpr (decide_eq_true hfits), rfl⟩⟩⟩
  exact bne_iff_ne.mpr (by omega)

end Reading

/-- **Quantities are read exactly if they can be worked out in 64 bits**, and memory is then
accepted in every unit. -/
theorem quantities_exact_iff (value : String) (scale : Nat) :
    ((∀ n, parseDecimalScaled value scale = .ok n ↔ Denotes value scale n ∧ n < 2 ^ 64) ↔
      ∀ n, Denotes value scale n → n < 2 ^ 64 → Workable value scale) ∧
    ∀ (name field unit : String) (allowUnlimited : Bool) (entry : String × Nat) (n : Nat),
      entry ∈ memoryUnits → Text.toAsciiLowercase unit = entry.1 → Workable value entry.2 →
      Denotes value entry.2 n → 0 < n → n < 2 ^ 63 →
      normalizeMemory name field (value ++ unit) allowUnlimited = .ok (n : Int) := by
  refine ⟨?_, ?_⟩
  · simp only [parseDecimalScaled_ok_iff]
    exact ⟨fun h n hden hfits => ((h n).mpr ⟨hden, hfits⟩).2,
      fun h n => ⟨And.left, fun hn => ⟨hn, h n hn.1 hn.2⟩⟩⟩
  · intro name field unit allowUnlimited entry n hent hunit hwork hden hpos hfits
    exact normalizeMemory_eq hent hunit
      (parseDecimalScaled_ok_iff.mpr ⟨⟨hden, by omega⟩, hwork⟩) hpos hfits

/-- One byte, written with twenty zeros after the dot, and half a pebibyte are refused. -/
theorem trailing_zeros_refused :
    (Denotes "1.00000000000000000000" 1 1 ∧
      parseDecimalScaled "1.00000000000000000000" 1 = .error "decimal precision is too large") ∧
    Denotes "0.50000000000" (2 ^ 50) (2 ^ 49) ∧
      normalizeMemory "db" "mem_limit" "0.50000000000p" false
        = .error ("service db: invalid mem_limit \"0.50000000000p\": "
          ++ "decimal value is too large") := by
  refine ⟨⟨⟨['1'], some (List.replicate 20 '0'), ⟨by decide, by simp, by decide, ?_⟩, by decide⟩,
    by decide +kernel⟩,
    ⟨['0'], some ('5' :: List.replicate 10 '0'), ⟨by decide, by simp, by decide, ?_⟩,
    by decide +kernel⟩, by decide +kernel⟩
  · simp [Char.isDigit]
  · simp [Char.isDigit]

end Swarmlite
