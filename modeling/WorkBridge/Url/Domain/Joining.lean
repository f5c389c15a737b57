import WorkBridge.Url.Domain.Composition
import WorkBridge.Url.Domain.Direction

/-!
Joiners in domain names.

A joiner is a character that cannot be seen and changes how its neighbours are written.  One is
only allowed where it does change something: behind a mark that takes the vowel from a letter,
and, where it keeps letters apart, between letters that would be joined without it.
-/

namespace WorkBridge.Url

namespace Joining

/-- Ranges of letters that join the letter after them. -/
def forwardText : List String := [
  "620 620, 626 626, 628 628, 62a 62e, 633 63f, 641 647, 649 64a, 66e 66f, 679 687, 69a 6bf",
  "6c1 6c2, 6cc 6cc, 6ce 6ce, 6d0 6d1, 6fa 6fc, 6ff 6ff, 712 714, 71a 71d, 71f 727, 729 729",
  "72b 72b, 72d 72e, 74e 758, 75c 76a, 76d 770, 772 772, 775 777, 77a 77f, 7ca 7ea, 841 845",
  "848 848, 84a 853, 855 855, 860 860, 862 865, 868 868, 886 886, 889 88d, 88f 88f, 8a0 8a9",
  "8af 8b0, 8b3 8b8, 8ba 8c8, 1807 1807, 1820 1878, 1887 18a8, 18aa 18aa, a840 a872",
  "10ac0 10ac4, 10acd 10acd, 10ad3 10adc, 10ade 10ae0, 10aeb 10aee, 10b80 10b80, 10b82 10b82",
  "10b86 10b88, 10b8a 10b8b, 10b8d 10b8d, 10b90 10b90, 10bad 10bae, 10d00 10d21, 10d23 10d23",
  "10ec3 10ec4, 10ec6 10ec7, 10f30 10f32, 10f34 10f44, 10f51 10f53, 10f70 10f73, 10f76 10f81",
  "10fb0 10fb0, 10fb2 10fb3, 10fb8 10fb8, 10fbb 10fbc, 10fbe 10fbf, 10fc1 10fc1, 10fc4 10fc4",
  "10fca 10fcb, 1e922 1e943"]

/-- Ranges of letters that join the letter before them. -/
def backwardText : List String := [
  "620 620, 622 63f, 641 64a, 66e 66f, 671 673, 679 6d3, 6d5 6d5, 6ee 6ef, 6fa 6fc, 6ff 6ff",
  "710 710, 712 72f, 74d 77f, 7ca 7ea, 840 858, 860 860, 862 865, 867 882, 886 886, 889 88f",
  "8a0 8ac, 8ae 8c8, 1807 1807, 1820 1878, 1887 18a8, 18aa 18aa, a840 a871, 10ac0 10ac5",
  "10ac7 10ac7, 10ac9 10aca, 10ace 10ad6, 10ad8 10ae1, 10ae4 10ae4, 10aeb 10aef, 10b80 10b91",
  "10ba9 10bae, 10d01 10d23, 10ec2 10ec4, 10ec6 10ec7, 10f30 10f44, 10f51 10f54, 10f70 10f81",
  "10fb0 10fb0, 10fb2 10fb6, 10fb8 10fbf, 10fc1 10fc4, 10fc9 10fca, 1e922 1e943"]

def forwards : List (Nat × Nat) := Table.ranges forwardText

def backwards : List (Nat × Nat) := Table.ranges backwardText

/-- Ranges of marks that take room and do not come between letters. -/
def looseMarks : List (Nat × Nat) :=
  [(0xCBF, 0xCBF), (0xCC6, 0xCC6), (0x11A07, 0x11A08), (0x11C3F, 0x11C3F), (0x1E94B, 0x1E94B)]

/-- Whether letters on both sides of a character are joined as if it were not there. -/
def isTransparent (c : Char) : Bool :=
  (Direction.of c = .mark && c.toNat ≠ 0x1171E) || Table.contains looseMarks c

/-- Whether a mark takes the vowel from the letter before it. -/
def isVowelKiller (c : Char) : Bool := Composition.classOf c = 9

/-- Whether letters are joined over the place between two texts; the first stands last
character first. -/
def joins (before after : List Char) : Bool :=
  ((before.dropWhile isTransparent).head?.any (Table.contains forwards)) &&
    ((after.dropWhile isTransparent).head?.any (Table.contains backwards))

/-- Whether a character may stand between two texts. -/
def isPlaced (before : List Char) (c : Char) (after : List Char) : Bool :=
  if c.toNat = 0x200C then before.head?.any isVowelKiller || joins before after
  else c.toNat ≠ 0x200D || before.head?.any isVowelKiller

end Joining

/-- Whether every joiner changes something, behind a text that stands last character first. -/
def hasPlacedJoiners (before : List Char) : List Char → Bool
  | [] => true
  | c :: rest => Joining.isPlaced before c rest && hasPlacedJoiners (c :: before) rest

end WorkBridge.Url
