import RegistryOperator.Resource.Metadata

/-! Status conditions: at most one for each type, with the moment of its last change of status. -/

namespace RegistryOperator

/-- Whether a condition holds. -/
inductive ConditionStatus
  | yes
  | no
  | unknown
deriving DecidableEq, Repr, Inhabited

namespace ConditionStatus

def name : ConditionStatus → String
  | .yes => "True"
  | .no => "False"
  | .unknown => "Unknown"

def ofName? (s : String) : Option ConditionStatus :=
  if s = "True" then some .yes
  else if s = "False" then some .no
  else if s = "Unknown" then some .unknown
  else none

def ofBool (b : Bool) : ConditionStatus := if b then .yes else .no

def decode : Decoder ConditionStatus := Decode.word ofName?

end ConditionStatus

/-- A single observation about an object. -/
structure Condition where
  type : String
  status : ConditionStatus
  reason : Option String
  message : Option String
  lastTransitionTime : Option Timestamp
deriving DecidableEq, Repr

namespace Condition

def reading : Reading Condition :=
  Condition.mk <$> .required "type" Decode.string <*> .required "status" ConditionStatus.decode
    <*> .optional "reason" Decode.string <*> .optional "message" Decode.string
    <*> .optional "lastTransitionTime" Timestamp.decode

def decode : Decoder Condition := reading.decode

def toJson (c : Condition) : Json :=
  .record [("type", some (.str c.type)), ("status", some (.str c.status.name)),
    ("reason", c.reason.map .str), ("message", c.message.map .str),
    ("lastTransitionTime", c.lastTransitionTime.map (.str ·.text))]

def find (type : String) (conditions : List Condition) : Option Condition :=
  conditions.find? (·.type = type)

/-- A condition after a new observation: its time moves only if its status does. -/
def update (c : Condition) (now : Timestamp) (status : ConditionStatus) (reason message : String) :
    Condition :=
  { c with
    status
    reason := some reason
    message := some message
    lastTransitionTime := if c.status = status then c.lastTransitionTime else some now }

/-- Updates the first condition of a type, or adds one at the end. -/
def set (now : Timestamp) (type : String) (status : ConditionStatus) (reason message : String) :
    List Condition → List Condition
  | [] => [⟨type, status, some reason, some message, some now⟩]
  | c :: rest =>
    if c.type = type then c.update now status reason message :: rest
    else c :: set now type status reason message rest

end Condition
end RegistryOperator
