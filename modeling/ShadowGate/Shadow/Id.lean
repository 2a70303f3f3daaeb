import ShadowGate.Json.Record
import ShadowGate.Text.Bytes

/-!
# Shadow ids

A shadow is named by 128 bits, written as 32 hexadecimal digits after `shadow_`, or, in a record,
in five groups of digits. Ids are ordered as numbers.
-/

namespace ShadowGate

/-- The 128 bits that name a shadow. -/
structure ShadowId where
  /-- the bits -/
  bits : BitVec 128
deriving DecidableEq, Inhabited

namespace ShadowId

instance : Ord ShadowId := ⟨fun a b => compare a.bits b.bits⟩

instance : Std.TransOrd ShadowId where
  eq_swap {a b} := (Std.OrientedCmp.eq_swap : compare a.bits b.bits = (compare b.bits a.bits).swap)
  isLE_trans {a b c} hab hbc := by
    have hab' : (compare a.bits b.bits).isLE := hab
    have hbc' : (compare b.bits c.bits).isLE := hbc
    have hac : (compare a.bits c.bits).isLE := Std.TransCmp.isLE_trans hab' hbc'
    exact hac

instance : Std.LawfulEqOrd ShadowId where
  compare_self {a} := (Std.ReflCmp.compare_self : compare a.bits a.bits = .eq)
  eq_of_compare {a b} h := by
    have h' : compare a.bits b.bits = .eq := h
    have hb : a.bits = b.bits := Std.LawfulEqCmp.eq_of_compare h'
    cases a; cases b; cases hb; rfl

/-- The 32 hexadecimal digits of an id. -/
def digits (id : ShadowId) : List Char := Text.hexDigits 32 id.bits.toNat

/-- The id as messages name it. -/
def text (id : ShadowId) : String := "shadow_" ++ String.ofList id.digits

/-- The digits in groups of eight, four, four, four and twelve. -/
def groupedChars (id : ShadowId) : List Char :=
  let d := id.digits
  d.take 8 ++ '-' :: ((d.drop 8).take 4 ++ '-' :: ((d.drop 12).take 4
    ++ '-' :: ((d.drop 16).take 4 ++ '-' :: d.drop 20)))

/-- The id as a record writes it. -/
def grouped (id : ShadowId) : String := String.ofList id.groupedChars

/-- The id of 32 hexadecimal digits. -/
def ofDigits? (cs : List Char) : Option ShadowId :=
  if cs.length = 32 then (Text.hexNumber? cs).map fun n => ⟨BitVec.ofNat 128 n⟩ else none

/-- The id of digits in groups. -/
def ofGroups? (cs : List Char) : Option ShadowId :=
  if cs.length = 36 && [8, 13, 18, 23].all (fun i => cs[i]? == some '-') then
    ofDigits? (cs.take 8 ++ (cs.drop 9).take 4 ++ (cs.drop 14).take 4 ++ (cs.drop 19).take 4
      ++ cs.drop 24)
  else none

/-- The opening of an id written as a resource name, in small letters. -/
def resourceName : List Char := ['u', 'r', 'n', ':', 'u', 'u', 'i', 'd', ':']

/-- The id that a text spells: 32 digits, groups, groups between braces, or a resource name, whose
opening may be in letters of either case. -/
def ofText? (s : String) : Option ShadowId :=
  let cs := s.toList
  match cs with
  | '{' :: rest =>
    if rest.length = 37 && rest.getLast? == some '}' then ofGroups? rest.dropLast else none
  | _ =>
    if cs.length = 32 then ofDigits? cs
    else if cs.length = 45 && (cs.take 9).map Char.toLower == resourceName then
      ofGroups? (cs.drop 9)
    else ofGroups? cs

/-- An id as a value. -/
def toJson (id : ShadowId) : Json := .str id.grouped

/-- The id that a value spells. -/
def ofJson? (v : Json) : Option ShadowId := v.str?.bind ofText?

end ShadowId

end ShadowGate
