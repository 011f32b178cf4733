import RoadsideSnmp.Oid

/-! Names for the objects that operators meet most. The table serves display and arguments and is
no substitute for a management information base. -/
namespace RoadsideSnmp.Console

def wellKnown : List (Oid × String) := [
  (.ofNats [1, 3, 6, 1, 2, 1, 1, 1, 0], "sysDescr.0"),
  (.ofNats [1, 3, 6, 1, 2, 1, 1, 2, 0], "sysObjectID.0"),
  (.ofNats [1, 3, 6, 1, 2, 1, 1, 3, 0], "sysUpTime.0"),
  (.ofNats [1, 3, 6, 1, 2, 1, 1, 5, 0], "sysName.0"),
  (.ofNats [1, 3, 6, 1, 2, 1, 1, 6, 0], "sysLocation.0"),
  (.ofNats [1, 3, 6, 1, 4, 1, 1206, 4, 2, 6, 1, 1, 0], "globalSetIDParameter.0"),
  (.ofNats [1, 3, 6, 1, 4, 1, 1206, 4, 2, 6, 1, 2, 0], "globalMaxModules.0"),
  (.ofNats [1, 3, 6, 1, 4, 1, 1206, 4, 2, 6, 3, 1, 0], "globalTime.0"),
  (.ofNats [1, 3, 6, 1, 4, 1, 1206, 4, 2, 3, 1, 1, 0], "dmsSignAccess.0"),
  (.ofNats [1, 3, 6, 1, 4, 1, 1206, 4, 2, 3, 1, 2, 0], "dmsSignType.0"),
  (.ofNats [1, 3, 6, 1, 4, 1, 1206, 4, 2, 3, 1, 3, 0], "dmsSignHeight.0"),
  (.ofNats [1, 3, 6, 1, 4, 1, 1206, 4, 2, 3, 1, 4, 0], "dmsSignWidth.0"),
  (.ofNats [1, 3, 6, 1, 2, 1, 1], "system"),
  (.ofNats [1, 3, 6, 1, 4, 1, 1206], "nema"),
  (.ofNats [1, 3, 6, 1, 4, 1, 1206, 4, 2, 3], "dms"),
  (.ofNats [1, 3, 6, 1, 4, 1, 1206, 4, 2, 3, 1], "dmsSignCfg"),
  (.ofNats [1, 3, 6, 1, 4, 1, 1206, 4, 2, 6, 1], "globalConfiguration"),
  (.ofNats [1, 3, 6, 1, 4, 1, 1206, 4, 2, 6, 1, 3], "globalModuleTable")]

def nameOf? (oid : Oid) : Option String := wellKnown.lookup oid

def annotation (wanted : Bool) (oid : Oid) : String :=
  match (if wanted then nameOf? oid else none) with
  | some name => " (" ++ name ++ ")"
  | none => ""

inductive NameFault where
  | notAnOid (input : String) (fault : OidFault)
  | unknown (input : String)
  deriving DecidableEq, Repr

def NameFault.message : NameFault → String
  | .notAnOid input fault => "invalid OID '" ++ input ++ "': " ++ fault.message
  | .unknown input => "unknown OID name '" ++ input ++
      "'; use dotted notation (e.g., 1.3.6.1.4.1.1206.4.2.3.1.2.0)"

def sameName (a b : String) : Bool := a.toList.map Char.toLower = b.toList.map Char.toLower

/-- Dotted decimal if the text begins with a digit or a dot, else a name of the table. -/
def readOid (input : String) : Except NameFault Oid :=
  if input.toList.head?.any fun first => first.isDigit || first = '.' then
    (Oid.parse input).mapError (.notAnOid input)
  else
    match wellKnown.find? fun entry => sameName entry.2 input with
    | some (oid, _) => .ok oid
    | none => .error (.unknown input)

end RoadsideSnmp.Console
