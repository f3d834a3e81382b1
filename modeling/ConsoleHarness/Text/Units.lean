/-! # Text measured in 16-bit units

The length of console text is counted in units of 16 bits: a character outside the basic plane
takes two of them, every other character one.
-/

namespace ConsoleHarness.Text

/-- The number of 16-bit units of a character. -/
def unitsOf (c : Char) : Nat := if c.toNat < 0x10000 then 1 else 2

/-- The number of 16-bit units of a list of characters. -/
def unitsOfChars : List Char → Nat
  | [] => 0
  | c :: rest => unitsOf c + unitsOfChars rest

/-- The number of 16-bit units of a text. -/
def units (s : String) : Nat := unitsOfChars s.toList

@[simp] theorem unitsOfChars_nil : unitsOfChars [] = 0 := rfl

@[simp] theorem unitsOfChars_cons (c : Char) (rest : List Char) :
    unitsOfChars (c :: rest) = unitsOf c + unitsOfChars rest := rfl

@[simp] theorem unitsOfChars_append (a b : List Char) :
    unitsOfChars (a ++ b) = unitsOfChars a + unitsOfChars b := by
  induction a with
  | nil => simp
  | cons c rest ih => simp [ih, Nat.add_assoc]

@[simp] theorem units_empty : units "" = 0 := by simp [units]

@[simp] theorem units_append (a b : String) : units (a ++ b) = units a + units b := by
  simp [units]

/-- A substring test: `part` stands somewhere in `whole`. -/
def occursIn (part whole : List Char) : Bool :=
  match whole with
  | [] => part.isEmpty
  | c :: rest => part.isPrefixOf (c :: rest) || occursIn part rest

end ConsoleHarness.Text
