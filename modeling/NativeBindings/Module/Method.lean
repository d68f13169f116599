import NativeBindings.Lowering
import NativeBindings.Text

/-!
# Operation methods

Every public operation becomes a method of two mixin classes, one whose methods block and one whose
methods are awaited. Both are written from the same signatures.
-/
namespace NativeBindings

/-- How the methods of a mixin are called (`CallingConvention`). -/
inductive Convention where
  | awaitable | blocking
  deriving DecidableEq, Repr, Inhabited

/-- The conventions in the order of their classes. -/
def Convention.all : List Convention := [.awaitable, .blocking]

def Convention.className : Convention → String
  | .awaitable => "AsyncStateMachineMixin"
  | .blocking => "StateMachineMixin"

def Convention.beforeDefinition : Convention → String
  | .awaitable => "async "
  | .blocking => ""

def Convention.beforeSubmission : Convention → String
  | .awaitable => "await "
  | .blocking => ""

/-- The operation that keeps a connection alive and is never a method. -/
def heartbeat : String := "pulse"

structure OperationEnum where
  name : String
  /-- The members that its class leaves out. -/
  hidden : List String
  deriving DecidableEq, Repr, Inhabited

structure MethodSignature where
  name : String
  parameter : String
  batch : Bool
  event : TypeHint
  result : TypeHint
  /-- The member of the operation enum. -/
  member : String
  eventWrapper : Wrapper
  resultWrapper : Wrapper
  deriving DecidableEq, Repr, Inhabited

namespace MethodSignature

def parameterType (m : MethodSignature) : String :=
  if m.batch then s!"list[{m.event.text}]" else m.event.text

def returnType (m : MethodSignature) : String := s!"list[{m.result.text}]"

/-- The events that are submitted, always a list. -/
def submitted (m : MethodSignature) : String :=
  if m.batch then m.parameter else s!"[{m.parameter}]"

/-- A member that the operation enum hides cannot be submitted (`buildMethodSignature`). -/
def build (names : Names) (operations : OperationEnum) (o : Operation) :
    Except Fault MethodSignature := do
  if o.name ∈ operations.hidden then throw (.hiddenOperation o.name operations.name)
  let eventContext := s!"operation '{o.name}' event"
  let resultContext := s!"operation '{o.name}' result"
  return { name := o.name, parameter := o.parameter, batch := o.arity == .batch
           event := ← names.hint o.event eventContext
           result := ← names.hint o.result resultContext
           member := s!"{operations.name}.{Naming.upper o.name}"
           eventWrapper := ← names.wrapper o.event eventContext
           resultWrapper := ← names.wrapper o.result resultContext }

/-- The operations that become methods. -/
def exposed (operations : List Operation) : List Operation :=
  operations.filter (·.name != heartbeat)

def buildAll (names : Names) (operationEnum : OperationEnum) (operations : List Operation) :
    Except Fault (List MethodSignature) :=
  (exposed operations).mapM (build names operationEnum)

/-- A method (`renderMethod`). -/
def lines (m : MethodSignature) (convention : Convention) : List String :=
  [s!"    {convention.beforeDefinition}def {m.name}(self, {m.parameter}: {m.parameterType}) " ++
      s!"-> {m.returnType}:",
    s!"        return {convention.beforeSubmission}self._submit(",
    s!"            {m.member},",
    s!"            {m.submitted},",
    s!"            {m.eventWrapper.text},",
    s!"            {m.resultWrapper.text},",
    "        )"]

end MethodSignature

/-- The mixin class of a convention, with two empty lines after it (`renderMixin`). -/
def mixinLines (methods : List MethodSignature) (operationEnum : String)
    (convention : Convention) : List String :=
  [s!"class {convention.className}:",
    s!"    _submit: Callable[[{operationEnum}, Any, Any, Any], Any]"] ++
  methods.flatMap (fun m => "" :: m.lines convention) ++ ["", ""]

end NativeBindings
