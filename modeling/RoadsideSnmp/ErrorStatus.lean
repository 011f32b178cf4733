/-! What an agent says about a request it could not serve. A code without a name is kept. -/
namespace RoadsideSnmp

inductive ErrorStatus where
  | noError
  | tooBig
  | noSuchName
  | badValue
  | readOnly
  | genErr
  | noAccess
  | wrongType
  | wrongLength
  | wrongEncoding
  | wrongValue
  | noCreation
  | inconsistentValue
  | resourceUnavailable
  | commitFailed
  | undoFailed
  | authorizationError
  | notWritable
  | inconsistentName
  | unknown (code : Int32)
  deriving DecidableEq, Repr

namespace ErrorStatus

def named : List ErrorStatus :=
  [.noError, .tooBig, .noSuchName, .badValue, .readOnly, .genErr, .noAccess, .wrongType,
    .wrongLength, .wrongEncoding, .wrongValue, .noCreation, .inconsistentValue,
    .resourceUnavailable, .commitFailed, .undoFailed, .authorizationError, .notWritable,
    .inconsistentName]

def code : ErrorStatus → Int32
  | .noError => 0
  | .tooBig => 1
  | .noSuchName => 2
  | .badValue => 3
  | .readOnly => 4
  | .genErr => 5
  | .noAccess => 6
  | .wrongType => 7
  | .wrongLength => 8
  | .wrongEncoding => 9
  | .wrongValue => 10
  | .noCreation => 11
  | .inconsistentValue => 12
  | .resourceUnavailable => 13
  | .commitFailed => 14
  | .undoFailed => 15
  | .authorizationError => 16
  | .notWritable => 17
  | .inconsistentName => 18
  | .unknown code => code

def ofCode (code : Int32) : ErrorStatus :=
  (named.find? fun status => decide (status.code = code)).getD (.unknown code)

theorem ofCode_code_of_named : ∀ status ∈ named, ofCode status.code = status := by decide

theorem code_ofCode (code : Int32) : (ofCode code).code = code := by
  unfold ofCode
  cases found : named.find? fun status => decide (status.code = code) with
  | none => rfl
  | some status => simpa using List.find?_some found

def name : ErrorStatus → String
  | .noError => "noError"
  | .tooBig => "tooBig"
  | .noSuchName => "noSuchName"
  | .badValue => "badValue"
  | .readOnly => "readOnly"
  | .genErr => "genErr"
  | .noAccess => "noAccess"
  | .wrongType => "wrongType"
  | .wrongLength => "wrongLength"
  | .wrongEncoding => "wrongEncoding"
  | .wrongValue => "wrongValue"
  | .noCreation => "noCreation"
  | .inconsistentValue => "inconsistentValue"
  | .resourceUnavailable => "resourceUnavailable"
  | .commitFailed => "commitFailed"
  | .undoFailed => "undoFailed"
  | .authorizationError => "authorizationError"
  | .notWritable => "notWritable"
  | .inconsistentName => "inconsistentName"
  | .unknown code => s!"unknown({code.toInt})"

end ErrorStatus
end RoadsideSnmp
