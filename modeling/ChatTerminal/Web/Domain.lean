import ChatTerminal.Text.Blank
import ChatTerminal.Text.Normal
import ChatTerminal.Web.DirectionTable
import ChatTerminal.Web.DomainTable
import ChatTerminal.Web.Punycode
/-!
# Domain names

The ASCII form of a domain name: characters are mapped and normalized, and each label beyond
ASCII is checked and written in Punycode. Labels that are already written in Punycode are checked
as well.
-/

namespace ChatTerminal.Web

open Text

def isAscii (c : Char) : Bool := c.toNat < 0x80

def isForbiddenInDomain (c : Char) : Bool :=
  c.toNat ≤ 0x20 || c.toNat == 0x7F || "%#/:<>?@[\\]^|".toList.contains c

/-- The lead of a label written in Punycode. -/
def aceLead : List Char := "xn--".toList

/-- A character that a label may hold as it is. -/
def isLabelChar (c : Char) : Bool :=
  if isAscii c then c.toLower == c else domainChar c == some [c]

/-- The two joiners stand after a virama, or the first of them between letters that join. -/
def joinersFit (before : List Char) : List Char → Bool
  | [] => true
  | c :: after =>
    let afterVirama := (before.head?.map combiningClass) == some 9
    let transparent (d : Char) : Bool := inRanges joinTransparentRanges d.toNat
    let joins (ranges : List (Nat × Nat)) (s : List Char) : Bool :=
      ((s.dropWhile transparent).head?.map fun d => inRanges ranges d.toNat) == some true
    let fits :=
      if c.toNat = 0x200C then
        afterVirama || (joins joinsBeforeRanges before && joins joinsAfterRanges after)
      else if c.toNat = 0x200D then afterVirama
      else true
    fits && joinersFit (c :: before) after

def isRightToLeft (c : Char) : Bool := inRanges rightToLeftRanges c.toNat

def isArabicNumber (c : Char) : Bool := inRanges arabicNumberRanges c.toNat

def isEuropeanNumber (c : Char) : Bool := inRanges europeanNumberRanges c.toNat

def isLeftToRight (c : Char) : Bool := inRanges leftToRightRanges c.toNat

/-- The rule for labels of a name in which something is written from right to left: a label
starts with a letter, keeps to the direction of that letter, and ends with a letter or a digit. -/
def directionFits (label : List Char) : Bool :=
  let passive (c : Char) : Bool := inRanges neutralRanges c.toNat || inRanges nonspacingRanges c.toNat
  let last := (label.reverse.dropWhile fun c => inRanges nonspacingRanges c.toNat).head?
  match label with
  | [] => true
  | c :: _ =>
    if isRightToLeft c then
      label.all (fun d => isRightToLeft d || isArabicNumber d || isEuropeanNumber d || passive d) &&
        (last.map fun d => isRightToLeft d || isArabicNumber d || isEuropeanNumber d) == some true &&
        !(label.any isArabicNumber && label.any isEuropeanNumber)
    else
      isLeftToRight c &&
        label.all (fun d => isLeftToRight d || isEuropeanNumber d || passive d) &&
        (last.map fun d => isLeftToRight d || isEuropeanNumber d) == some true

def labelFits (label : List Char) : Bool :=
  label.all isLabelChar && normalize label == label &&
    (label.head?.map isMark) != some true &&
    (dropLead? aceLead label).isNone && joinersFit [] label

def labelText? (label : List Char) : Option (List Char) :=
  match dropLead? aceLead label with
  | none => if label.all isAscii || labelFits label then some label else none
  | some coded => do
    let text ← Punycode.decode coded
    if !text.all isAscii && labelFits text then some text else none

def labelAscii (text : List Char) : List Char :=
  if text.all isAscii then text else aceLead ++ Punycode.encode text

/-- The ASCII form of a domain name, or nothing if it is no domain name or holds a `forbidden`
character. -/
def domainAscii? (forbidden : Char → Bool) (s : List Char) : Option (List Char) := do
  let mapped ← s.mapM fun c => if isAscii c then some [c.toLower] else domainChar c
  let labels := pieces (· == '.') (normalize mapped.flatten)
  let texts ← labels.mapM labelText?
  let mixed := texts.any (·.any fun c => isRightToLeft c || isArabicNumber c)
  let name := (texts.map labelAscii).intersperse ['.'] |>.flatten
  if (mixed && !texts.all directionFits) || name.any forbidden then none else some name

end ChatTerminal.Web
