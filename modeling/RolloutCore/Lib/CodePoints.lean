import Mathlib.Data.List.Lex
import Mathlib.Data.String.Basic
import Mathlib.Order.Fin.Basic

/-!
# Texts of code points

A text is a list of code points, the surrogates among them. A text without surrogates is a string
of characters, in the same order, and its UTF-8 encoding is that of the string; strict encoding
refuses every other text at its first run of surrogates.
-/

abbrev CodePoint := Fin 0x110000

namespace CodePoint

def IsSurrogate (c : CodePoint) : Prop := 0xd800 ≤ c.val ∧ c.val ≤ 0xdfff

instance : DecidablePred IsSurrogate := fun c =>
  inferInstanceAs (Decidable (0xd800 ≤ c.val ∧ c.val ≤ 0xdfff))

theorem toNat_lt (c : Char) : c.toNat < 0x110000 := by
  have hvalid : c.toNat.isValidChar := c.valid
  unfold Nat.isValidChar at hvalid
  omega

def ofChar (c : Char) : CodePoint := ⟨c.toNat, toNat_lt c⟩

/-- The character of a code point that is not a surrogate. -/
def toChar (c : CodePoint) : Char := Char.ofNat c.val

theorem not_isSurrogate_ofChar (c : Char) : ¬ (ofChar c).IsSurrogate := by
  have hvalid : c.toNat.isValidChar := c.valid
  unfold Nat.isValidChar at hvalid
  rintro ⟨hlo, hhi⟩
  simp only [ofChar] at hlo hhi
  omega

@[simp] theorem toChar_ofChar (c : Char) : toChar (ofChar c) = c := Char.ofNat_toNat c

theorem ofChar_toChar {c : CodePoint} (h : ¬ c.IsSurrogate) : ofChar (toChar c) = c := by
  have hvalid : c.val.isValidChar := by
    have hlt := c.isLt
    unfold IsSurrogate at h
    unfold Nat.isValidChar
    omega
  apply Fin.ext
  show (Char.ofNat c.val).toNat = c.val
  unfold Char.ofNat
  rw [dif_pos hvalid]
  rfl

theorem ofChar_lt {c d : Char} (h : c < d) : ofChar c < ofChar d := h

end CodePoint

abbrev Text := List CodePoint

/-- What an encoding raises: the text, and where its first surrogates begin and end. -/
structure UnicodeEncodeError where
  object : Text
  start : ℕ
  stop : ℕ

namespace Text

open CodePoint

def ofString (s : String) : Text := s.toList.map ofChar

/-- No code point is a surrogate. -/
def Encodable (t : Text) : Prop := ∀ c ∈ t, ¬ c.IsSurrogate

instance : DecidablePred Encodable := fun t =>
  inferInstanceAs (Decidable (∀ c ∈ t, ¬ c.IsSurrogate))

/-- `t.encode("utf-8")`. -/
def encode (t : Text) : Except UnicodeEncodeError ByteArray :=
  match t.findIdx? (·.IsSurrogate) with
  | some start =>
    .error ⟨t, start, start + ((t.drop start).takeWhile (·.IsSurrogate)).length⟩
  | none => .ok (String.ofList (t.map toChar)).toUTF8

example : (encode [0x61, 0xd800, 0xdfff]).map (fun _ => ()) =
    .error ⟨[0x61, 0xd800, 0xdfff], 1, 3⟩ := by
  rfl

/-! ## Strings as texts -/

theorem ofString_append (s t : String) : ofString (s ++ t) = ofString s ++ ofString t := by
  unfold ofString
  rw [String.toList_append, List.map_append]

theorem ofString_intercalate (s : String) (l : List String) :
    ofString (s.intercalate l) = (ofString s).intercalate (l.map ofString) := by
  unfold ofString
  rw [String.toList_intercalate]
  induction l with
  | nil => rfl
  | cons t l ih =>
    cases l with
    | nil => simp [List.intercalate]
    | cons u l =>
      rw [List.map_cons, List.map_cons, List.map_cons, List.map_cons] at *
      rw [List.intercalate_cons_cons, List.intercalate_cons_cons, List.map_append,
        List.map_append, ih]

theorem encodable_ofString (s : String) : (ofString s).Encodable := by
  intro c hc
  obtain ⟨d, -, rfl⟩ := List.mem_map.mp hc
  exact not_isSurrogate_ofChar d

theorem encodable_nil : Encodable [] := by
  unfold Encodable
  simp

theorem encodable_append {s t : Text} : (s ++ t).Encodable ↔ s.Encodable ∧ t.Encodable :=
  List.forall_mem_append

/-- The texts without surrogates are those of the strings. -/
theorem exists_ofString {t : Text} (h : t.Encodable) : ∃ s, ofString s = t := by
  refine ⟨String.ofList (t.map toChar), ?_⟩
  have hback : ∀ c ∈ t, ofChar (toChar c) = c := fun c hc => ofChar_toChar (h c hc)
  unfold ofString
  rw [String.toList_ofList, List.map_map]
  exact (List.map_congr_left hback).trans (List.map_id t)

theorem ofString_strictMono : StrictMono ofString := fun _ _ h =>
  List.map_lt (fun _ _ => ofChar_lt) (String.lt_iff_toList_lt.mp h)

theorem ofString_injective : Function.Injective ofString := ofString_strictMono.injective

theorem ofString_le {s t : String} : ofString s ≤ ofString t ↔ s ≤ t :=
  ofString_strictMono.le_iff_le

theorem ofString_eq_nil {s : String} : ofString s = [] ↔ s = "" := by
  unfold ofString
  rw [List.map_eq_nil_iff, String.toList_eq_nil_iff]

/-! ## Encoding -/

theorem encode_ofString (s : String) : (ofString s).encode = .ok s.toUTF8 := by
  have hnone : (ofString s).findIdx? (·.IsSurrogate) = none := by
    rw [List.findIdx?_eq_none_iff]
    intro c hc
    simpa using encodable_ofString s c hc
  have hchars : (ofString s).map toChar = s.toList := by
    unfold ofString
    rw [List.map_map]
    exact (List.map_congr_left fun c _ => toChar_ofChar c).trans (List.map_id _)
  unfold encode
  rw [hnone, hchars, String.ofList_toList]

theorem encode_eq_ok {t : Text} (h : t.Encodable) : ∃ data, t.encode = .ok data := by
  obtain ⟨s, rfl⟩ := exists_ofString h
  exact ⟨_, encode_ofString s⟩

theorem encode_eq_error {t : Text} (h : ¬ t.Encodable) : ∃ e, t.encode = .error e := by
  cases hfind : t.findIdx? (·.IsSurrogate) with
  | none =>
    rw [List.findIdx?_eq_none_iff] at hfind
    exact absurd (fun c hc => by simpa using hfind c hc) h
  | some start =>
    unfold encode
    rw [hfind]
    exact ⟨_, rfl⟩

end Text
