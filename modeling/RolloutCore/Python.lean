import Mathlib.Data.List.Sort
import Mathlib.Data.Rat.Floor

/-!
# The Python built-ins the code relies on

`repr` of a string, the lines of a text, `str.replace` by nothing, `str.isdigit`, `int` of a digit
string, `or` on optional values and the `.0f` format, as the standard library documents them. Two
limits: `pyRepr` escapes as `repr` does on ASCII and prints every other character as it is, and the
interpreter's cap on the number of digits in a conversion between `int` and `str` is left out on
both sides.
-/

namespace RolloutCore

/-! ## Text -/

/-- A lower-case hexadecimal digit. -/
def hexDigit (n : ℕ) : Char := "0123456789abcdef".toList.getD n '0'

/-- The quote `repr` puts around a string. -/
def quoteOf (s : String) : Char :=
  if s.toList.contains '\'' && !s.toList.contains '"' then '"' else '\''

def escapeChar (quote c : Char) : List Char :=
  if c = '\\' ∨ c = quote then ['\\', c]
  else if c = '\n' then ['\\', 'n']
  else if c = '\r' then ['\\', 'r']
  else if c = '\t' then ['\\', 't']
  else if c.toNat < 32 ∨ c.toNat = 127 then
    ['\\', 'x', hexDigit (c.toNat / 16), hexDigit (c.toNat % 16)]
  else [c]

/-- `repr(s)`, the `!r` of an f-string. -/
def pyRepr (s : String) : String :=
  String.ofList ([quoteOf s] ++ s.toList.flatMap (escapeChar (quoteOf s)) ++ [quoteOf s])

/-- The `str` of an optional integer. -/
def optIntStr : Option ℤ → String
  | none => "None"
  | some n => toString n

/-- `s.startswith(p)`. -/
def startsWith (p s : String) : Bool := p.toList.isPrefixOf s.toList

/-- `s[len(p):]`. -/
def dropLabel (p s : String) : String := String.ofList (s.toList.drop p.length)

theorem startsWith_append (p s : String) : startsWith p (p ++ s) = true := by
  simp [startsWith]

theorem dropLabel_append (p s : String) : dropLabel p (p ++ s) = s := by
  unfold dropLabel
  rw [String.toList_append, ← String.length_toList, List.drop_left, String.ofList_toList]

/-- A string that starts with `p` is `p` and the rest. -/
theorem append_dropLabel {p s : String} (h : startsWith p s = true) : p ++ dropLabel p s = s := by
  obtain ⟨t, ht⟩ := List.isPrefixOf_iff_prefix.mp h
  have hs : s = p ++ String.ofList t := by
    rw [← String.toList_inj, String.toList_append, String.toList_ofList, ht]
  rw [hs, dropLabel_append]

/-- What `str.strip` strips. -/
def isSpaceChar (c : Char) : Bool :=
  [0x20, 0x85, 0xa0, 0x1680, 0x2028, 0x2029, 0x202f, 0x205f, 0x3000].contains c.toNat ||
    (0x09 ≤ c.toNat && c.toNat ≤ 0x0d) || (0x1c ≤ c.toNat && c.toNat ≤ 0x1f) ||
      (0x2000 ≤ c.toNat && c.toNat ≤ 0x200a)

/-- `not s.strip()`. -/
def isBlank (s : String) : Bool := s.toList.all isSpaceChar

/-- The lines of a text with its line breaks translated, `acc` being read already. -/
def linesFrom (acc : List Char) : List Char → List String
  | [] => if acc.isEmpty then [] else [String.ofList acc.reverse]
  | '\r' :: '\n' :: cs | '\n' :: cs | '\r' :: cs =>
    String.ofList (acc.reverse ++ ['\n']) :: linesFrom [] cs
  | c :: cs => linesFrom (c :: acc) cs

/-- `for line in handle` on a file opened for reading text. -/
def textLines (text : String) : List String := linesFrom [] text.toList

example : textLines "a\r\nb\n\nc" = ["a\n", "b\n", "\n", "c"] := by decide

/-- Where `str.splitlines` breaks. -/
def isLineBreak (c : Char) : Bool :=
  [0x0a, 0x0b, 0x0c, 0x0d, 0x1c, 0x1d, 0x1e, 0x85, 0x2028, 0x2029].contains c.toNat

def splitFrom (acc : List Char) : List Char → List String
  | [] => if acc.isEmpty then [] else [String.ofList acc.reverse]
  | '\r' :: '\n' :: cs => String.ofList acc.reverse :: splitFrom [] cs
  | c :: cs =>
    if isLineBreak c then String.ofList acc.reverse :: splitFrom [] cs else splitFrom (c :: acc) cs

/-- `text.splitlines()`. -/
def splitLines (text : String) : List String := splitFrom [] text.toList

example : splitLines "a\r\nb\n\nc\n" = ["a", "b", "", "c"] := by decide

/-- The characters behind the first `skip`, without the occurrences of `old`. -/
def removeFrom (old : List Char) : ℕ → List Char → List Char
  | _, [] => []
  | skip + 1, _ :: cs => removeFrom old skip cs
  | 0, c :: cs =>
    if old.isPrefixOf (c :: cs) then removeFrom old (old.length - 1) cs
    else c :: removeFrom old 0 cs

/-- `s.replace(old, "")` for an `old` that is not empty. -/
def removeText (old s : String) : String := String.ofList (removeFrom old.toList 0 s.toList)

/-- `a or b` where only the empty string is false. -/
def strOr : Option String → String → String
  | none, b => b
  | some a, b => if a = "" then b else a

/-- `sorted` on strings, which compare by code point. -/
def sortedStrings (xs : List String) : List String := xs.insertionSort (· ≤ ·)

/-! ## Lines -/

/-- A line without a break in it is read up to its end. -/
theorem linesFrom_line {cs : List Char} (hn : '\n' ∉ cs) (hr : '\r' ∉ cs) (acc rest : List Char) :
    linesFrom acc (cs ++ '\n' :: rest) =
      String.ofList (acc.reverse ++ cs ++ ['\n']) :: linesFrom [] rest := by
  induction cs generalizing acc with
  | nil =>
    rw [List.nil_append, List.append_nil]
    rfl
  | cons c cs ih =>
    rw [List.mem_cons, not_or] at hn hr
    have hc : linesFrom acc (c :: (cs ++ '\n' :: rest)) =
        linesFrom (c :: acc) (cs ++ '\n' :: rest) := by
      rw [linesFrom]
      · rintro _ rfl
        exact absurd rfl hr.1
      · rintro rfl
        exact absurd rfl hn.1
      · rintro rfl
        exact absurd rfl hr.1
    rw [List.cons_append, hc, ih hn.2 hr.2, List.reverse_cons, List.append_assoc acc.reverse [c] cs]
    rfl

/-- Reading back what was written line by line. -/
theorem textLines_join {xs : List String} (h : ∀ x ∈ xs, '\n' ∉ x.toList ∧ '\r' ∉ x.toList) :
    textLines (String.join (xs.map (· ++ "\n"))) = xs.map (· ++ "\n") := by
  induction xs with
  | nil => rfl
  | cons x xs ih =>
    obtain ⟨hx, hxs⟩ := List.forall_mem_cons.mp h
    have htext : (String.join ((x :: xs).map (· ++ "\n"))).toList =
        x.toList ++ '\n' :: (String.join (xs.map (· ++ "\n"))).toList := by
      simp [String.toList_join]
    have hline : String.ofList (x.toList ++ ['\n']) = x ++ "\n" := by
      rw [String.ofList_append, String.ofList_toList]
    unfold textLines at ih ⊢
    rw [htext, linesFrom_line hx.1 hx.2, ih hxs, List.reverse_nil, List.nil_append, hline,
      List.map_cons]

/-! ## Digits -/

/-- The zeros of the runs of ten decimal digits in Unicode 14, the table of Python 3.11. -/
def decimalZeros : List ℕ :=
  [0x30, 0x660, 0x6f0, 0x7c0, 0x966, 0x9e6, 0xa66, 0xae6, 0xb66, 0xbe6, 0xc66, 0xce6, 0xd66,
    0xde6, 0xe50, 0xed0, 0xf20, 0x1040, 0x1090, 0x17e0, 0x1810, 0x1946, 0x19d0, 0x1a80, 0x1a90,
    0x1b50, 0x1bb0, 0x1c40, 0x1c50, 0xa620, 0xa8d0, 0xa900, 0xa9d0, 0xa9f0, 0xaa50, 0xabf0,
    0xff10, 0x104a0, 0x10d30, 0x11066, 0x110f0, 0x11136, 0x111d0, 0x112f0, 0x11450, 0x114d0,
    0x11650, 0x116c0, 0x11730, 0x118e0, 0x11950, 0x11c50, 0x11d50, 0x11da0, 0x16a60, 0x16ac0,
    0x16b50, 0x1d7ce, 0x1d7d8, 0x1d7e2, 0x1d7ec, 0x1d7f6, 0x1e140, 0x1e2f0, 0x1e950, 0x1fbf0]

/-- First and last character of the runs of digits that are not decimal (superscripts, circled
digits and the like): `isdigit` accepts them, `int` does not. -/
def otherDigitRuns : List (ℕ × ℕ) :=
  [(0xb2, 0xb3), (0xb9, 0xb9), (0x1369, 0x1371), (0x19da, 0x19da), (0x2070, 0x2070),
    (0x2074, 0x2079), (0x2080, 0x2089), (0x2460, 0x2468), (0x2474, 0x247c), (0x2488, 0x2490),
    (0x24ea, 0x24ea), (0x24f5, 0x24fd), (0x24ff, 0x24ff), (0x2776, 0x277e), (0x2780, 0x2788),
    (0x278a, 0x2792), (0x10a40, 0x10a43), (0x10e60, 0x10e68), (0x11052, 0x1105a),
    (0x1f100, 0x1f10a)]

/-- The value of a decimal digit. -/
def decimalValue (c : Char) : Option ℕ :=
  (decimalZeros.find? fun z => z ≤ c.toNat && c.toNat < z + 10).map (c.toNat - ·)

def isDigitChar (c : Char) : Bool :=
  (decimalValue c).isSome || otherDigitRuns.any fun r => r.1 ≤ c.toNat && c.toNat ≤ r.2

/-- `s.isdigit()`. -/
def isdigit (s : String) : Bool := !s.toList.isEmpty && s.toList.all isDigitChar

/-- `int(s)` for a string of digits; `none` is the `ValueError`. -/
def intOfDigits (s : String) : Option ℕ :=
  (s.toList.mapM decimalValue).map fun ds => ds.foldl (fun n d => 10 * n + d) 0

example : isdigit "007" = true ∧ intOfDigits "007" = some 7 := by decide

example : isdigit "²" = true ∧ intOfDigits "²" = none := by decide

/-! ## The digits of a number -/

theorem decimalValue_of_isDigit {c : Char} (h : c.isDigit = true) :
    decimalValue c = some (c.toNat - '0'.toNat) := by
  obtain ⟨hlo, hhi⟩ := Char.isDigit_iff_toNat.mp h
  have hlo : 48 ≤ c.toNat := hlo
  have hhi : c.toNat ≤ 57 := hhi
  unfold decimalValue decimalZeros
  rw [List.find?_cons_of_pos (by simp; omega)]
  rfl

theorem mapM_decimalValue {cs : List Char} (h : ∀ c ∈ cs, c.isDigit = true) :
    cs.mapM decimalValue = some (cs.map fun c => c.toNat - '0'.toNat) := by
  induction cs with
  | nil => rfl
  | cons c cs ih =>
    rw [List.forall_mem_cons] at h
    rw [List.mapM_cons, decimalValue_of_isDigit h.1, ih h.2]
    rfl

theorem mapM_decimalValue_isSome {cs : List Char} :
    (cs.mapM decimalValue).isSome = true ↔ ∀ c ∈ cs, (decimalValue c).isSome = true := by
  induction cs with
  | nil => simp
  | cons c cs ih =>
    rw [List.mapM_cons, List.forall_mem_cons, ← ih]
    cases decimalValue c <;> cases cs.mapM decimalValue <;> simp

/-- `int` reads a string of digits exactly if all of them are decimal. -/
theorem intOfDigits_isSome {s : String} :
    (intOfDigits s).isSome = true ↔ ∀ c ∈ s.toList, (decimalValue c).isSome = true := by
  unfold intOfDigits
  rw [Option.isSome_map]
  exact mapM_decimalValue_isSome

/-- Decimal digits are digits. -/
theorem isdigit_of_decimal {s : String} (hne : s ≠ "")
    (h : ∀ c ∈ s.toList, (decimalValue c).isSome = true) : isdigit s = true := by
  unfold isdigit
  rw [Bool.and_eq_true, List.all_eq_true]
  constructor
  · simpa using hne
  · intro c hc
    unfold isDigitChar
    rw [h c hc]
    rfl

/-- What `str` makes of a number is ASCII digits. -/
theorem isDigit_of_mem_toString {n : ℕ} {c : Char} (h : c ∈ (toString n).toList) :
    c.isDigit = true := by
  rw [Nat.toString_eq_repr, Nat.toList_repr] at h
  exact Nat.isDigit_of_mem_toDigits (by decide) (by decide) h

/-- `int` reads what `str` writes. -/
theorem intOfDigits_toString (n : ℕ) : intOfDigits (toString n) = some n := by
  unfold intOfDigits
  rw [mapM_decimalValue fun c => isDigit_of_mem_toString, Option.map_some, List.foldl_map,
    ← Nat.ofDigitChars_eq_foldl, Nat.toString_eq_repr, Nat.toList_repr,
    Nat.ofDigitChars_ten_toDigits]

theorem isdigit_toString (n : ℕ) : isdigit (toString n) = true := by
  apply isdigit_of_decimal
  · rw [Nat.toString_eq_repr]
    exact Nat.repr_ne_empty
  · intro c hc
    rw [decimalValue_of_isDigit (isDigit_of_mem_toString hc)]
    rfl

theorem toString_injective {m n : ℕ} (h : toString m = toString n) : m = n := by
  have hint := intOfDigits_toString m
  rw [h, intOfDigits_toString] at hint
  exact (Option.some.inj hint).symm

/-! ## Rounding -/

/-- The nearest integer, the even one of two. -/
def roundHalfEven (q : ℚ) : ℤ :=
  let n := q.floor
  if q - n < 1 / 2 then n
  else if 1 / 2 < q - n then n + 1
  else if n % 2 = 0 then n else n + 1

/-- `format(x, ".0f")`. -/
def formatFixed0 (q : ℚ) : String :=
  let n := roundHalfEven q
  if q < 0 ∧ n = 0 then "-0" else toString n

end RolloutCore
