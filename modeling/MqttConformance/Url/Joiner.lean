import MqttConformance.Text.Composite
import MqttConformance.Text.Printable

/-!
Invisible joiners in labels. A joiner may follow a mark that suppresses a vowel; the one that keeps
letters apart may also stand between two letters that would be written joined.
-/

namespace MqttConformance.Url

/-- The sides on which a letter joins its neighbours. -/
inductive Joining where
  | onward
  | back
  | both
  deriving DecidableEq, Repr

/-- The letters that join their neighbours. -/
def joiningRanges : Array (Nat × Nat × Joining) := #[
  (0x620, 0x620, .both), (0x622, 0x625, .back), (0x626, 0x626, .both), (0x627, 0x627, .back),
  (0x628, 0x628, .both), (0x629, 0x629, .back), (0x62a, 0x62e, .both), (0x62f, 0x632, .back),
  (0x633, 0x63f, .both), (0x641, 0x647, .both), (0x648, 0x648, .back), (0x649, 0x64a, .both),
  (0x66e, 0x66f, .both), (0x671, 0x673, .back), (0x679, 0x687, .both), (0x688, 0x699, .back),
  (0x69a, 0x6bf, .both), (0x6c0, 0x6c0, .back), (0x6c1, 0x6c2, .both), (0x6c3, 0x6cb, .back),
  (0x6cc, 0x6cc, .both), (0x6cd, 0x6cd, .back), (0x6ce, 0x6ce, .both), (0x6cf, 0x6cf, .back),
  (0x6d0, 0x6d1, .both), (0x6d2, 0x6d3, .back), (0x6d5, 0x6d5, .back), (0x6ee, 0x6ef, .back),
  (0x6fa, 0x6fc, .both), (0x6ff, 0x6ff, .both), (0x710, 0x710, .back), (0x712, 0x714, .both),
  (0x715, 0x719, .back), (0x71a, 0x71d, .both), (0x71e, 0x71e, .back), (0x71f, 0x727, .both),
  (0x728, 0x728, .back), (0x729, 0x729, .both), (0x72a, 0x72a, .back), (0x72b, 0x72b, .both),
  (0x72c, 0x72c, .back), (0x72d, 0x72e, .both), (0x72f, 0x74d, .back), (0x74e, 0x758, .both),
  (0x759, 0x75b, .back), (0x75c, 0x76a, .both), (0x76b, 0x76c, .back), (0x76d, 0x770, .both),
  (0x771, 0x771, .back), (0x772, 0x772, .both), (0x773, 0x774, .back), (0x775, 0x777, .both),
  (0x778, 0x779, .back), (0x77a, 0x77f, .both), (0x7ca, 0x7ea, .both), (0x840, 0x840, .back),
  (0x841, 0x845, .both), (0x846, 0x847, .back), (0x848, 0x848, .both), (0x849, 0x849, .back),
  (0x84a, 0x853, .both), (0x854, 0x854, .back), (0x855, 0x855, .both), (0x856, 0x858, .back),
  (0x860, 0x860, .both), (0x862, 0x865, .both), (0x867, 0x867, .back), (0x868, 0x868, .both),
  (0x869, 0x882, .back), (0x886, 0x886, .both), (0x889, 0x88d, .both), (0x88e, 0x88e, .back),
  (0x88f, 0x88f, .both), (0x8a0, 0x8a9, .both), (0x8aa, 0x8ac, .back), (0x8ae, 0x8ae, .back),
  (0x8af, 0x8b0, .both), (0x8b1, 0x8b2, .back), (0x8b3, 0x8b8, .both), (0x8b9, 0x8b9, .back),
  (0x8ba, 0x8c8, .both), (0x1807, 0x1807, .both), (0x1820, 0x1878, .both), (0x1887, 0x18aa, .both),
  (0xa840, 0xa871, .both), (0xa872, 0xa872, .onward), (0x10ac0, 0x10ac4, .both),
  (0x10ac5, 0x10ac5, .back), (0x10ac7, 0x10ac7, .back), (0x10ac9, 0x10aca, .back),
  (0x10acd, 0x10acd, .onward), (0x10ace, 0x10ad2, .back), (0x10ad3, 0x10ad6, .both),
  (0x10ad7, 0x10ad7, .onward), (0x10ad8, 0x10adc, .both), (0x10add, 0x10add, .back),
  (0x10ade, 0x10ae0, .both), (0x10ae1, 0x10ae1, .back), (0x10ae4, 0x10ae4, .back),
  (0x10aeb, 0x10aee, .both), (0x10aef, 0x10aef, .back), (0x10b80, 0x10b80, .both),
  (0x10b81, 0x10b81, .back), (0x10b82, 0x10b82, .both), (0x10b83, 0x10b85, .back),
  (0x10b86, 0x10b88, .both), (0x10b89, 0x10b89, .back), (0x10b8a, 0x10b8b, .both),
  (0x10b8c, 0x10b8c, .back), (0x10b8d, 0x10b8d, .both), (0x10b8e, 0x10b8f, .back),
  (0x10b90, 0x10b90, .both), (0x10b91, 0x10b91, .back), (0x10ba9, 0x10bac, .back),
  (0x10bad, 0x10bae, .both), (0x10d00, 0x10d00, .onward), (0x10d01, 0x10d21, .both),
  (0x10d22, 0x10d22, .back), (0x10d23, 0x10d23, .both), (0x10ec2, 0x10ec2, .back),
  (0x10ec3, 0x10ec4, .both), (0x10ec6, 0x10ec7, .both), (0x10f30, 0x10f32, .both),
  (0x10f33, 0x10f33, .back), (0x10f34, 0x10f44, .both), (0x10f51, 0x10f53, .both),
  (0x10f54, 0x10f54, .back), (0x10f70, 0x10f73, .both), (0x10f74, 0x10f75, .back),
  (0x10f76, 0x10f81, .both), (0x10fb0, 0x10fb0, .both), (0x10fb2, 0x10fb3, .both),
  (0x10fb4, 0x10fb6, .back), (0x10fb8, 0x10fb8, .both), (0x10fb9, 0x10fba, .back),
  (0x10fbb, 0x10fbc, .both), (0x10fbd, 0x10fbd, .back), (0x10fbe, 0x10fbf, .both),
  (0x10fc1, 0x10fc1, .both), (0x10fc2, 0x10fc3, .back), (0x10fc4, 0x10fc4, .both),
  (0x10fc9, 0x10fc9, .back), (0x10fca, 0x10fca, .both), (0x10fcb, 0x10fcb, .onward),
  (0x1e922, 0x1e943, .both)]

def joining? (c : Char) : Option Joining :=
  (joiningRanges.find? fun (lo, hi, _) => lo ≤ c.toNat && c.toNat ≤ hi).map (·.2.2)

/-- Keeps letters apart. -/
def nonJoiner : Char := '\u200c'

/-- Brings letters together. -/
def joiner : Char := '\u200d'

/-- The class of the marks that suppress a vowel. -/
def vowelSuppressor : Nat := 9

/-- A mark that joined letters pass by. -/
def isTransparent (c : Char) : Bool := Text.isGraphemeExtend c && c != nonJoiner

/-- Whether a character, which stands between a text in reverse and another, may stand there. -/
def joinerFits (before : List Char) (c : Char) (after : List Char) : Bool :=
  let suppressed := (before.head?.map Text.markClass) == some vowelSuppressor
  if c == joiner then suppressed
  else if c == nonJoiner then
    let left := ((before.dropWhile isTransparent).head?).bind joining?
    let right := ((after.dropWhile isTransparent).head?).bind joining?
    suppressed ||
      (left == some .onward || left == some .both) && (right == some .back || right == some .both)
  else true

/-- Whether every joiner behind a text, given in reverse, may stand where it does. -/
def joinersFitAfter (before : List Char) : List Char → Bool
  | [] => true
  | c :: cs => joinerFits before c cs && joinersFitAfter (c :: before) cs

/-- Whether every joiner of a label may stand where it does. -/
def joinersFit (label : List Char) : Bool := joinersFitAfter [] label

end MqttConformance.Url
