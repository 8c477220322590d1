import EgoAgent.Lib.Digest
import EgoAgent.Api.Transaction

/-!
Canonical hashing of request bodies and the errors of the control plane.

A body is JSON with floating-point numbers of any type `φ`; the encoder sorts
mappings by key and refuses numbers that are not finite.
-/

namespace EgoAgent.Api

/-! ### Errors -/

inductive ErrorClass where
  | controlPlane
  | notFound
  | conflict
  | policy
  deriving DecidableEq

inductive ServiceError where
  | control (errorClass : ErrorClass) (code message : String) (statusCode : Nat)
  | other (name message : String)
  deriving DecidableEq

instance : Raisable ServiceError where
  isException _ := true
  runtimeError := .other "RuntimeError"
  operationalError := .other "OperationalError"

def conflictError (code message : String) : ServiceError := .control .conflict code message 409

def ServiceError.code : ServiceError → Option String
  | .control _ code _ _ => some code
  | .other _ _ => none

def evidenceGateFailed : String := "evidence_gate_failed"

/-! ### JSON -/

/-- Floating-point numbers as far as the encoder looks at them. -/
class FloatText (φ : Type) where
  isFinite : φ → Bool
  repr : φ → List Char

open FloatText

/-- Documents without floating-point numbers. -/
instance : FloatText Empty := ⟨fun _ => true, fun number => nomatch number⟩

inductive Json (φ : Type) where
  | null
  | bool (flag : Bool)
  | int (number : Int)
  | float (number : φ)
  | str (text : String)
  | list (items : List (Json φ))
  | dict (members : List (String × Json φ))

section Encoding

variable {φ : Type} [FloatText φ]

mutual

def Json.finite : Json φ → Bool
  | .float number => isFinite number
  | .list items => finiteItems items
  | .dict members => finiteMembers members
  | _ => true

def finiteItems : List (Json φ) → Bool
  | [] => true
  | item :: rest => item.finite && finiteItems rest

def finiteMembers : List (String × Json φ) → Bool
  | [] => true
  | (_, value) :: rest => value.finite && finiteMembers rest

end

mutual

def Json.sorted : Json φ → Json φ
  | .list items => .list (sortedItems items)
  | .dict members => .dict (sortMembers (sortedMembers members))
  | value => value

def sortedItems : List (Json φ) → List (Json φ)
  | [] => []
  | item :: rest => item.sorted :: sortedItems rest

def sortedMembers : List (String × Json φ) → List (String × Json φ)
  | [] => []
  | (key, value) :: rest => (key, value.sorted) :: sortedMembers rest

end

omit [FloatText φ] in
theorem sortedMembers_eq_map (members : List (String × Json φ)) :
    sortedMembers members = members.map fun member => (member.1, member.2.sorted) := by
  induction members with
  | nil => rfl
  | cons member rest ih =>
      obtain ⟨key, value⟩ := member
      rw [sortedMembers, ih]
      rfl

mutual

def Json.text : Json φ → List Char
  | .null => ['n', 'u', 'l', 'l']
  | .bool true => ['t', 'r', 'u', 'e']
  | .bool false => ['f', 'a', 'l', 's', 'e']
  | .int number => numeral number
  | .float number => FloatText.repr number
  | .str text => quoted text
  | .list [] => ['[', ']']
  | .list (item :: rest) => '[' :: (item.text ++ jsonTextItems rest)
  | .dict [] => ['{', '}']
  | .dict ((key, value) :: rest) =>
      '{' :: (quoted key ++ ':' :: (value.text ++ jsonTextMembers rest))

def jsonTextItems : List (Json φ) → List Char
  | [] => [']']
  | item :: rest => ',' :: (item.text ++ jsonTextItems rest)

def jsonTextMembers : List (String × Json φ) → List Char
  | [] => ['}']
  | (key, value) :: rest => ',' :: (quoted key ++ ':' :: (value.text ++ jsonTextMembers rest))

end

def canonicalJson (value : Json φ) : Except ServiceError (List Char) :=
  if value.finite then .ok value.sorted.text
  else .error (.other "ValueError" "non-finite numbers cannot be canonically hashed")

/-- The hash function is a parameter, as a platform library. -/
def canonicalSha256 (sha256 : Bytes → Digest) (value : Json φ) : Except ServiceError String :=
  (canonicalJson value).map fun text => (sha256 (utf8Encode text)).labelled ""

end Encoding

end EgoAgent.Api
