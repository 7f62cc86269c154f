import KubeEdge.Go.Strconv

set_option autoImplicit false

/-!
# `dtcommon`: deal types and value checks of the device twin module

A Go `error` is modelled by its `Error()` text.
-/

namespace KubeEdge.Twin
open KubeEdge.Go

abbrev GoError := String

def RestDealType : Nat := 0
def SyncDealType : Nat := 1
def DetailDealType : Nat := 2
def SyncTwinDeleteDealType : Nat := 3

def DealExpected : Nat := 0
def DealActual : Nat := 1

def stringType : String := "string"

def BadRequestCode : Nat := 400
def NotFoundCode : Nat := 404
def InternalErrorCode : Nat := 500

def ValidateValue (valueType value : String) : Option GoError :=
  match valueType with
  | "" => none
  | "string" => none
  | "int" | "integer" =>
    if parseInt64Ok value then none else some "the value is not int or integer"
  | "float" => if parseFloat64Ok value then none else some "the value is not float"
  | "boolean" =>
    if value = "true" ∨ value = "false" then none else some "the bool value must be true or false"
  | "deleted" => none
  | _ => some "the value type is not allowed"

def isTwinChar (c : Char) : Bool :=
  c.isAlphanum || c ∈ ['-', '_', '.', ',', ':', '/', '@', '#']

def ValidateTwinKey (key : String) : Bool :=
  1 ≤ key.length && key.length ≤ 128 && key.toList.all isTwinChar

/-- `ValidateTwinValue`: the value matches `^[a-zA-Z0-9-_.,:/@#]{1,512}$`. -/
def ValidateTwinValue (value : String) : Bool :=
  1 ≤ value.length && value.length ≤ 512 && value.toList.all isTwinChar

end KubeEdge.Twin
