import RoadsideSnmp.Session.Dialogue

/-! The operations of a manager that take one request. The ones about a single name give its
binding, the others all the bindings of the reply. -/
namespace RoadsideSnmp.Query

def ask (config : Config) (kind : PduKind) (bindings : List Binding) :
    Dialogue (Except Failure (List Binding)) :=
  .request (.ofBindings config.version config.community kind bindings) (·.map Message.bindings)

/-- An agent that answers without any binding has failed in a way it does not tell. -/
def single (name : Oid) (reply : Except Failure (List Binding)) : Except Failure Binding :=
  match reply with
  | .ok (binding :: _) => .ok binding
  | .ok [] => .error (.agent ⟨.genErr, 0, some name⟩)
  | .error failure => .error failure

def getMany (config : Config) (names : List Oid) : Dialogue (Except Failure (List Binding)) :=
  ask config .getRequest (names.map Binding.null)

def get (config : Config) (name : Oid) : Dialogue (Except Failure Binding) :=
  (getMany config [name]).map (single name)

def getNext (config : Config) (name : Oid) : Dialogue (Except Failure Binding) :=
  (ask config .getNextRequest [.null name]).map (single name)

def getBulk (config : Config) (names : List Oid) (nonRepeaters maxRepetitions : Int32) :
    Dialogue (Except Failure (List Binding)) :=
  .request (.bulk config.version config.community nonRepeaters maxRepetitions names)
    (·.map Message.bindings)

def set (config : Config) (bindings : List Binding) : Dialogue (Except Failure (List Binding)) :=
  ask config .setRequest bindings

end RoadsideSnmp.Query
