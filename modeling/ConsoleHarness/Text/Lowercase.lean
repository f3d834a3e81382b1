import ConsoleHarness.Text.Casing

/-! # Lower case

Each letter goes to its lower-case partner.  Two letters are special: the capital I with a dot
becomes two characters, and a capital sigma that ends a word takes the final form.
-/

namespace ConsoleHarness.Text

/-- Whether the first character that is not looked through has a case. -/
def startsCased : List Char → Bool
  | [] => false
  | c :: rest =>
    if Casing.covers Casing.ignoredRanges c.toNat then startsCased rest
    else Casing.covers Casing.casedRanges c.toNat

/-- The lower case of a text, given whether it follows a letter with a case. -/
def lowerFrom (inWord : Bool) : List Char → List Char
  | [] => []
  | c :: rest =>
    let next :=
      if Casing.covers Casing.ignoredRanges c.toNat then inWord
      else Casing.covers Casing.casedRanges c.toNat
    if c.toNat = 0x130 then 'i' :: Char.ofNat 0x307 :: lowerFrom next rest
    else if c.toNat = 0x3A3 then
      Char.ofNat (if inWord && !startsCased rest then 0x3C2 else 0x3C3) :: lowerFrom next rest
    else Char.ofNat (Casing.lowerCode c.toNat) :: lowerFrom next rest

/-- The lower case of a text. -/
def lower (s : String) : String := String.ofList (lowerFrom false s.toList)

end ConsoleHarness.Text
