/-!
# Texts

A text is a list of code points. Apart from the characters there are the code points that stand for
one half of a surrogate pair. Two halves that belong together are written as one character; a half
that stands alone is a code point of a text like any other, but it is no character, and no file can
hold it.

* `CodePoint`, `Text` — code points and texts.
* `CodePoint.toNat`, `CodePoint.ofNat` — code points by their numbers.
* `Text.ofString` — a text of characters only, which is what a literal stands for.
* `Text.join`, `Text.intercalate` — several texts as one.
-/

namespace Winnow

/-! ## Code points -/

/-- A code point: a character, or one half of a surrogate pair, counted from the first of them. -/
inductive CodePoint where
  | char (c : Char)
  | half (n : Fin 0x800)
  deriving DecidableEq, Inhabited

namespace CodePoint

instance : Coe Char CodePoint := ⟨char⟩

/-- The number of the first half. -/
def firstHalf : Nat := 0xD800

/-- The number of a code point. -/
def toNat : CodePoint → Nat
  | char c => c.toNat
  | half n => firstHalf + n

/-- The code point of a number. -/
def ofNat (n : Nat) : CodePoint :=
  if h : n - firstHalf < 0x800 ∧ firstHalf ≤ n then half ⟨n - firstHalf, h.1⟩
  else char (Char.ofNat n)

/-- Code points are ordered by their numbers. -/
instance : LT CodePoint := ⟨fun a b => a.toNat < b.toNat⟩

instance : LE CodePoint := ⟨fun a b => a.toNat ≤ b.toNat⟩

instance : DecidableLT CodePoint := fun a b => inferInstanceAs (Decidable (a.toNat < b.toNat))

instance : DecidableLE CodePoint := fun a b => inferInstanceAs (Decidable (a.toNat ≤ b.toNat))

/-- The character that a code point is, if it is one. -/
def char? : CodePoint → Option Char
  | char c => some c
  | half _ => none

/-- Whether a code point is a character with a property. -/
def isChar (p : Char → Bool) : CodePoint → Bool
  | char c => p c
  | half _ => false

/-- The decimal digits of ASCII. -/
def isDigit : CodePoint → Bool := isChar Char.isDigit

/-- The letters of ASCII. -/
def isAlpha : CodePoint → Bool := isChar Char.isAlpha

/-- The letters and digits of ASCII. -/
def isAlphanum : CodePoint → Bool := isChar Char.isAlphanum

/-- A code point, its character changed if it is one. -/
def mapChar (f : Char → Char) : CodePoint → CodePoint
  | char c => f c
  | half n => half n

/-- A letter of ASCII as a capital. -/
def toUpper : CodePoint → CodePoint := mapChar Char.toUpper

/-- A letter of ASCII as a small one. -/
def toLower : CodePoint → CodePoint := mapChar Char.toLower

end CodePoint

/-! ## Texts -/

/-- A list of code points. -/
structure Text where
  /-- The text of a list of code points. -/
  ofList ::
  /-- The code points of a text. -/
  toList : List CodePoint
  deriving DecidableEq, Inhabited

namespace Text

/-- The text that holds the characters of a string. -/
def ofString (s : String) : Text := ⟨s.toList.map .char⟩

instance : Coe String Text := ⟨ofString⟩

instance : Append Text := ⟨fun s t => ⟨s.toList ++ t.toList⟩⟩

/-- Texts are ordered by their first difference. -/
instance : LT Text := ⟨fun s t => s.toList < t.toList⟩

instance : DecidableLT Text := fun s t => inferInstanceAs (Decidable (s.toList < t.toList))

/-- The number of code points. -/
def length (s : Text) : Nat := s.toList.length

/-- Whether a text holds nothing. -/
def isEmpty (s : Text) : Bool := s.toList.isEmpty

/-- Texts one after the other. -/
def join (texts : List Text) : Text := ⟨texts.flatMap toList⟩

/-- Texts one after the other, with `mark` between them. -/
def intercalate (mark : Text) (texts : List Text) : Text :=
  ⟨mark.toList.intercalate (texts.map toList)⟩

/-! ### Laws -/

@[ext] theorem ext {s t : Text} (h : s.toList = t.toList) : s = t := by
  cases s
  cases t
  exact congrArg ofList h

theorem toList_injective {s t : Text} (h : s.toList = t.toList) : s = t := ext h

theorem toList_inj {s t : Text} : s.toList = t.toList ↔ s = t := ⟨ext, congrArg toList⟩

theorem ofList_injective {s t : List CodePoint} (h : ofList s = ofList t) : s = t :=
  congrArg toList h

@[simp] theorem toList_ofList (s : List CodePoint) : (ofList s).toList = s := rfl

@[simp] theorem ofList_toList (s : Text) : ofList s.toList = s := rfl

@[simp] theorem toList_append (s t : Text) : (s ++ t).toList = s.toList ++ t.toList := rfl

theorem ofList_append (s t : List CodePoint) : ofList (s ++ t) = ofList s ++ ofList t := rfl

@[simp] theorem toList_ofString (s : String) : (ofString s).toList = s.toList.map .char := rfl

@[simp] theorem toList_empty : (ofString "").toList = [] := rfl

theorem append_assoc (s t u : Text) : s ++ t ++ u = s ++ (t ++ u) :=
  ext (List.append_assoc _ _ _)

@[simp] theorem empty_append (s : Text) : "" ++ s = s := rfl

@[simp] theorem append_empty (s : Text) : s ++ "" = s := ext (List.append_nil _)

@[simp] theorem join_nil : join [] = "" := rfl

@[simp] theorem join_cons (s : Text) (texts : List Text) : join (s :: texts) = s ++ join texts :=
  rfl

end Text

end Winnow
