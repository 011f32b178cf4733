import Mathlib.Control.Monad.Basic
import RoadsideSnmp.Console.Arguments
import RoadsideSnmp.Proofs.Console.OptionValue
import RoadsideSnmp.Proofs.Outcome
import RoadsideSnmp.Proofs.Pmpp.Noise

/-! What a command line says. Each setting of a command line that is understood is what some text
says, and the text is one that the command line gives for it or the usual one. -/
namespace RoadsideSnmp.Console

namespace Setting

def usual : Setting → String
  | community => "public"
  | version => "1"
  | timeout => "5"
  | retries => "3"
  | carrier => "udp"
  | address => "05"
  | control => "03"
  | protocolId => "C1"
  | format => "human"

def Agrees (text : String) (settings : Settings) : Setting → Prop
  | community => text = settings.community
  | version => choose [("1", .v1), ("2c", .v2c)] text = .ok settings.version
  | timeout => Decimal.Literal.parse text = .ok settings.timeout
  | retries => OptionValue.count text = .ok settings.retries
  | carrier => choose [("udp", .udp), ("pmpp-tcp", .pmppTcp)] text = .ok settings.carrier
  | address => OptionValue.hexOctets text = .ok settings.address
  | control => OptionValue.hexOctet text = .ok settings.control
  | protocolId => OptionValue.hexOctets text = .ok settings.protocolId
  | format => choose [("human", .human), ("json", .json)] text = .ok settings.format

theorem agrees_usual (setting : Setting) : setting.Agrees setting.usual .standard := by
  cases setting <;> simp only [Agrees, usual] <;> decide +kernel

variable {setting : Setting} {text : String} {settings next : Settings}

theorem agrees_of_assign (assigned : setting.assign text settings = .ok next) :
    setting.Agrees text next ∧
      ∀ other ≠ setting, ∀ said, other.Agrees said settings → other.Agrees said next := by
  cases setting with
  | community =>
      obtain rfl := Except.ok.inj assigned
      exact ⟨rfl, fun other differs said agrees => by
        cases other <;> first | exact agrees | exact absurd rfl differs⟩
  | _ =>
      obtain ⟨value, read, rfl⟩ := map_eq_ok_iff.mp assigned
      refine ⟨?_, fun other differs said agrees => by
        cases other <;> first | exact agrees | exact absurd rfl differs⟩
      first | exact read | exact mapError_eq_ok_iff.mp read

end Setting

theorem Flag.agrees_of_raise {flag : Flag} {settings next : Settings}
    (raised : flag.raise settings = .ok next) {setting : Setting} {text : String}
    (agrees : setting.Agrees text settings) : setting.Agrees text next := by
  unfold raise at raised
  cases flag with
  | help => simp at raised
  | version => simp at raised
  | verbose =>
      obtain rfl := Except.ok.inj raised
      cases setting <;> exact agrees
  | _ =>
      dsimp only at raised
      split at raised
      · simp at raised
      · obtain rfl := Except.ok.inj raised
        cases setting <;> exact agrees

inductive Names (setting : Setting) : String → Prop
  | long {key : String} (named : Setting.ofLong? key = some setting) : Names setting ("--" ++ key)
  | short {flags : List Char} {letter : Char}
      (flagged : ∀ flag ∈ flags, (Flag.ofShort? flag).isSome)
      (named : Setting.ofShort? letter = some setting) :
      Names setting (String.ofList ('-' :: (flags ++ [letter])))

inductive Carries (setting : Setting) (text : String) : String → Prop
  | long {key : String} (named : Setting.ofLong? key = some setting) :
      Carries setting text ("--" ++ key ++ "=" ++ text)
  | short {flags rest : List Char} {letter : Char}
      (flagged : ∀ flag ∈ flags, (Flag.ofShort? flag).isSome)
      (named : Setting.ofShort? letter = some setting) (filled : rest ≠ [])
      (behind : text.toList = if rest.head? = some '=' then rest.tail else rest) :
      Carries setting text (String.ofList ('-' :: (flags ++ letter :: rest)))

/-- Somewhere among the arguments the setting has the text. -/
inductive Gives (arguments : List String) (setting : Setting) (text : String) : Prop
  | together {argument : String} (carries : Carries setting text argument)
      (inside : argument ∈ arguments)
  | apart {argument : String} (names : Names setting argument)
      (inside : [argument, text] <:+: arguments)

def Told (arguments : List String) (setting : Setting) (text : String) : Prop :=
  Gives arguments setting text ∨ text = setting.usual

theorem Gives.append {arguments : List String} {setting : Setting} {text : String}
    (gives : Gives arguments setting text) (more : List String) :
    Gives (arguments ++ more) setting text := by
  cases gives with
  | together carries inside => exact .together carries (List.mem_append_left more inside)
  | apart names inside => exact .apart names (inside.trans (List.prefix_append _ _).isInfix)

theorem Told.append {arguments : List String} {setting : Setting} {text : String}
    (told : Told arguments setting text) (more : List String) :
    Told (arguments ++ more) setting text :=
  told.imp_left (·.append more)

/-- What the arguments so far have left: the settings are what they said, and what is pending is
theirs. -/
structure Traced (seen : List String) (progress : Progress) : Prop where
  agrees : ∀ setting, ∃ text, Told seen setting text ∧ setting.Agrees text progress.settings
  named : ∀ setting, progress.pending = some (setting, none) →
    progress.wordsOnly = true ∨ ∃ argument, Names setting argument ∧ [argument] <:+ seen
  given : ∀ setting text, progress.pending = some (setting, some text) → Gives seen setting text

namespace Traced

variable {seen : List String} {progress next : Progress} {setting : Setting} {text : String}

theorem start : Traced [] .start where
  agrees setting := ⟨setting.usual, .inr rfl, setting.agrees_usual⟩
  named setting pending := by simp [Progress.start] at pending
  given setting text pending := by simp [Progress.start] at pending

theorem append (traced : Traced seen progress) (settled : progress.pending = none)
    (more : List String) : Traced (seen ++ more) progress where
  agrees setting := by
    obtain ⟨text, told, agrees⟩ := traced.agrees setting
    exact ⟨text, told.append more, agrees⟩
  named setting pending := by simp [settled] at pending
  given setting text pending := by simp [settled] at pending

theorem assign (traced : Traced seen progress) (gives : Gives seen setting text)
    (assigned : progress.assign setting text = .ok next) :
    Traced seen next ∧ next.pending = progress.pending := by
  unfold Progress.assign at assigned
  split at assigned
  · simp at assigned
  · obtain ⟨settings, changed, rfl⟩ := map_eq_ok_iff.mp assigned
    obtain ⟨own, others⟩ := Setting.agrees_of_assign changed
    refine ⟨⟨fun other => ?_, traced.named, traced.given⟩, rfl⟩
    by_cases same : other = setting
    · subst same
      exact ⟨text, .inl gives, own⟩
    · obtain ⟨said, told, agrees⟩ := traced.agrees other
      exact ⟨said, told, others other same said agrees⟩

theorem settle (traced : Traced seen progress) (settled : progress.settle = .ok next) :
    Traced seen next ∧ next.pending = none := by
  unfold Progress.settle at settled
  split at settled
  · next none =>
      obtain rfl := Except.ok.inj settled
      exact ⟨traced, none⟩
  · simp at settled
  · next setting text waiting =>
      have cleared : Traced seen { progress with pending := none } :=
        ⟨traced.agrees, fun setting pending => by simp at pending,
          fun setting text pending => by simp at pending⟩
      exact cleared.assign (traced.given setting text waiting) settled

theorem raise {flag : Flag} (traced : Traced seen progress)
    (raised : progress.raise flag = .ok next) : Traced seen next ∧ next.pending = none := by
  obtain ⟨settled, done, rest⟩ := bind_eq_ok_iff.mp raised
  obtain ⟨settings, changed, same⟩ := bind_eq_ok_iff.mp rest
  obtain rfl := Except.ok.inj same
  obtain ⟨traced, none⟩ := traced.settle done
  refine ⟨⟨fun setting => ?_, traced.named, traced.given⟩, none⟩
  obtain ⟨text, told, agrees⟩ := traced.agrees setting
  exact ⟨text, told, Flag.agrees_of_raise changed agrees⟩

theorem name {argument : String} {value : Option String} (traced : Traced seen progress)
    (names : value = none → Names setting argument)
    (carries : ∀ text, value = some text → Carries setting text argument)
    (named : progress.name setting value = .ok next) : Traced (seen ++ [argument]) next := by
  obtain ⟨settled, done, rest⟩ := bind_eq_ok_iff.mp named
  obtain ⟨traced, none⟩ := traced.settle done
  have later := traced.append none [argument]
  cases value with
  | some text =>
      have gives : Gives (seen ++ [argument]) setting text :=
        .together (carries text rfl) (List.mem_append_right seen List.mem_cons_self)
      exact (later.assign gives rest).1
  | none =>
      obtain rfl := Except.ok.inj rest
      refine ⟨later.agrees, fun other pending => .inr ?_,
        fun other text pending => by simp at pending⟩
      obtain ⟨rfl, -⟩ := Prod.mk.inj (Option.some.inj pending)
      exact ⟨argument, names rfl, List.suffix_append seen [argument]⟩

theorem eq_of_dashes {argument : String} {body : List Char}
    (whole : argument.toList = '-' :: '-' :: body) :
    let key := String.ofList (body.takeWhile (· ≠ '='))
    match body.dropWhile (· ≠ '=') with
    | [] => argument = "--" ++ key
    | _ :: text => argument = "--" ++ key ++ "=" ++ String.ofList text := by
  have parts : body.takeWhile (· ≠ '=') ++ body.dropWhile (· ≠ '=') = body :=
    List.takeWhile_append_dropWhile
  have stop := List.head?_dropWhile_not (· ≠ '=') body
  generalize body.takeWhile (· ≠ '=') = name at parts ⊢
  generalize body.dropWhile (· ≠ '=') = value at parts stop ⊢
  subst parts
  cases value with
  | nil => exact String.ext (by simp [whole])
  | cons sign text =>
      obtain rfl : sign = '=' := by simpa using stop
      exact String.ext (by simp [whole])

theorem long {argument : String} {body : List Char} (traced : Traced seen progress)
    (whole : argument.toList = '-' :: '-' :: body) (taken : progress.long body = .ok next) :
    Traced (seen ++ [argument]) next := by
  have form := eq_of_dashes whole
  unfold Progress.long at taken
  dsimp only at taken
  generalize String.ofList (body.takeWhile (· ≠ '=')) = key at form taken
  generalize body.dropWhile (· ≠ '=') = value at form taken
  split at taken
  · next named =>
      refine traced.name (fun none => ?_) (fun text some => ?_) taken
      · cases value with
        | nil => exact form ▸ .long named
        | cons sign text => simp at none
      · cases value with
        | nil => simp at some
        | cons sign text =>
            obtain rfl := Option.some.inj some
            exact form ▸ .long named
  · obtain ⟨raised, none⟩ := traced.raise taken
    exact raised.append none [argument]
  · simp at taken
  · simp at taken

theorem cluster {argument : String} {flags letters : List Char} (traced : Traced seen progress)
    (flagged : ∀ flag ∈ flags, (Flag.ofShort? flag).isSome)
    (whole : argument.toList = '-' :: (flags ++ letters))
    (settled : letters = [] → progress.pending = none)
    (taken : Progress.cluster letters progress = .ok next) : Traced (seen ++ [argument]) next := by
  -- along the letters; those in front are flags, and the first settles what was pending
  induction letters generalizing flags progress with
  | nil =>
      obtain rfl := Except.ok.inj taken
      exact traced.append (settled rfl) [argument]
  | cons letter rest ih =>
      unfold Progress.cluster at taken
      split at taken
      · next flag _ short =>
          obtain ⟨middle, raised, later⟩ := bind_eq_ok_iff.mp taken
          obtain ⟨traced, none⟩ := traced.raise raised
          have more : ∀ one ∈ flags ++ [letter], (Flag.ofShort? one).isSome := by
            intro one inside
            obtain inside | last := List.mem_append.mp inside
            · exact flagged one inside
            · rw [List.mem_singleton.mp last, short]
              rfl
          refine ih traced more ?_ (fun _ => none) later
          rw [whole, List.append_assoc, List.singleton_append]
      · next setting _ named =>
          refine traced.name (fun none => ?_) (fun text some => ?_) taken
          · have blank : rest = [] := by simpa using none
            rw [← argument.ofList_toList, whole, blank]
            exact .short flagged named
          · have filled : rest ≠ [] := by
              rintro rfl
              simp at some
            rw [if_neg (by simpa using filled)] at some
            rw [← argument.ofList_toList, whole]
            exact .short flagged named filled (by simp [← Option.some.inj some])
      · simp at taken

theorem word {tool : Tool} (traced : Traced seen progress)
    (taken : progress.word tool text = .ok next) : Traced (seen ++ [text]) next := by
  unfold Progress.word at taken
  split at taken
  · simp at taken
  · obtain ⟨settled, done, rfl⟩ := map_eq_ok_iff.mp taken
    obtain ⟨traced, none⟩ := traced.settle done
    have later := traced.append none [text]
    exact ⟨later.agrees, later.named, later.given⟩

theorem take {tool : Tool} {argument : String} (traced : Traced seen progress)
    (taken : progress.take tool argument = .ok next) : Traced (seen ++ [argument]) next := by
  unfold Progress.take at taken
  split at taken
  · exact traced.word taken
  · next options =>
      split at taken
      · obtain rfl := Except.ok.inj taken
        refine ⟨fun setting => ?_, fun setting pending => .inl rfl, fun setting text pending => ?_⟩
        · obtain ⟨text, told, agrees⟩ := traced.agrees setting
          exact ⟨text, told.append _, agrees⟩
        · exact (traced.given setting text pending).append _
      · next body whole => exact traced.long whole taken
      · next letter letters _ whole =>
          exact traced.cluster (List.forall_mem_nil _) whole (by simp) taken
      · split at taken
        · next setting waiting =>
            obtain rfl := Except.ok.inj taken
            refine ⟨fun other => ?_, fun other pending => by simp at pending,
              fun other text pending => ?_⟩
            · obtain ⟨text, told, agrees⟩ := traced.agrees other
              exact ⟨text, told.append _, agrees⟩
            · obtain ⟨rfl, rfl⟩ : setting = other ∧ argument = text := by simpa using pending
              obtain only | ⟨before, names, front, rfl⟩ := traced.named setting waiting
              · exact absurd only options
              · exact .apart names ⟨front, [], by simp⟩
        · exact traced.word taken

theorem run {tool : Tool} {arguments : List String} (traced : Traced seen progress)
    (taken : arguments.foldlM (Progress.take tool) progress = .ok next) :
    Traced (seen ++ arguments) next := by
  induction arguments generalizing seen progress with
  | nil =>
      obtain rfl := Except.ok.inj taken
      rwa [List.append_nil]
  | cons argument arguments ih =>
      rw [List.foldlM_cons] at taken
      obtain ⟨middle, first, rest⟩ := bind_eq_ok_iff.mp taken
      have all := ih (traced.take first) rest
      rwa [List.append_assoc, List.singleton_append] at all

end Traced

theorem Invocation.agrees_of_ofArguments {tool : Tool} {arguments : List String}
    {invocation : Invocation} (understood : ofArguments tool arguments = .ok invocation)
    (setting : Setting) :
    ∃ text, Told arguments setting text ∧ setting.Agrees text invocation.settings := by
  obtain ⟨progress, taken, rest⟩ := bind_eq_ok_iff.mp understood
  obtain ⟨settled, done, made⟩ := bind_eq_ok_iff.mp rest
  have agrees := (Traced.start.run taken |>.settle done).1.agrees setting
  split at made
  · obtain rfl := Except.ok.inj made
    exact agrees
  · simp at made

theorem Invocation.spelled_of_station {tool : Tool} {arguments : List String}
    {invocation : Invocation} {station : Pmpp.Station}
    (understood : ofArguments tool arguments = .ok invocation)
    (framed : invocation.settings.station = .ok (some station)) :
    (∃ address, Told arguments .address address ∧
      OptionValue.Spelled address station.address.octets) ∧
    (∃ control, Told arguments .control control ∧
      OptionValue.Spelled control [station.control]) ∧
    ∃ protocolId, Told arguments .protocolId protocolId ∧
      OptionValue.Spelled protocolId station.protocolId.octets := by
  obtain ⟨address, toldAddress, saidAddress⟩ := agrees_of_ofArguments understood .address
  obtain ⟨control, toldControl, saidControl⟩ := agrees_of_ofArguments understood .control
  obtain ⟨protocolId, toldId, saidId⟩ := agrees_of_ofArguments understood .protocolId
  unfold Settings.station at framed
  split at framed
  · simp at framed
  · obtain ⟨made, exists_, same⟩ := map_eq_ok_iff.mp framed
    obtain rfl := Option.some.inj same
    obtain ⟨first, between, second⟩ := Pmpp.Station.fields_of_make exists_
    rw [(Pmpp.Field.octets_of_make first).1, between, (Pmpp.Field.octets_of_make second).1]
    exact ⟨⟨address, toldAddress, OptionValue.hexOctets_eq_ok_iff.mp saidAddress⟩,
      ⟨control, toldControl, OptionValue.hexOctets_eq_ok_iff.mp
        (OptionValue.hexOctet_eq_ok_iff.mp saidControl)⟩,
      ⟨protocolId, toldId, OptionValue.hexOctets_eq_ok_iff.mp saidId⟩⟩

/-- Text is accepted for octets just when it spells them, which is hexadecimal unless there is a
plus sign, and the tool breaks off just when a cut splits a character; so hexadecimal alone is read
just when neither happens. A command line has a station only for text, given in it or usual, that
spells the fields of the station. -/
theorem octets_as_typed (text : String) (tool : Tool) (arguments : List String) :
    (∀ octets,
      (OptionValue.hexOctets text = .ok octets ↔ OptionValue.Spelled text octets) ∧
      (OptionValue.IsHex text octets ↔
        OptionValue.Spelled text octets ∧ ¬ OptionValue.IsSigned text)) ∧
    (OptionValue.hexOctets text = .error .insideCharacter ↔ OptionValue.Splits text) ∧
    (OptionValue.ReadsHex text ↔ ¬ OptionValue.IsSigned text ∧ ¬ OptionValue.Splits text) ∧
    ∀ invocation station,
      Invocation.ofArguments tool arguments = .ok invocation →
      invocation.settings.station = .ok (some station) →
      (∃ address, Told arguments .address address ∧
        OptionValue.Spelled address station.address.octets) ∧
      (∃ control, Told arguments .control control ∧
        OptionValue.Spelled control [station.control]) ∧
      ∃ protocolId, Told arguments .protocolId protocolId ∧
        OptionValue.Spelled protocolId station.protocolId.octets :=
  ⟨fun _ => ⟨OptionValue.hexOctets_eq_ok_iff, OptionValue.isHex_iff⟩,
    OptionValue.hexOctets_eq_inside_iff, OptionValue.readsHex_iff,
    fun _ _ => Invocation.spelled_of_station⟩

def signedLine : List String :=
  ["--link", "pmpp-tcp", "--address", "+5", "--pid=0xc1", "10.0.0.5:4001", "1.3.6.1"]

def signedInvocation : Invocation :=
  ⟨{ Settings.standard with carrier := .pmppTcp }, "10.0.0.5:4001", ["1.3.6.1"]⟩

theorem octets_as_typed_signedLine :
    Invocation.ofArguments .get signedLine = .ok signedInvocation ∧
      signedInvocation.settings.station = .ok (some .standard) ∧
      (∃ address, Told signedLine .address address ∧ OptionValue.Spelled address [0x05]) ∧
      OptionValue.Spelled "+5" [0x05] ∧ OptionValue.IsSigned "+5" ∧
      OptionValue.Splits "aéa" := by
  obtain ⟨accepted, -, -, lines⟩ := octets_as_typed "+5" .get signedLine
  obtain ⟨-, breaks, -⟩ := octets_as_typed "aéa" .get signedLine
  have understood : Invocation.ofArguments .get signedLine = .ok signedInvocation := rfl
  have framed : signedInvocation.settings.station = .ok (some .standard) := by decide +kernel
  have spelled := (accepted [0x05]).1.mp rfl
  exact ⟨understood, framed, (lines _ _ understood framed).1, spelled,
    (OptionValue.isSigned_iff spelled).mpr (by decide), breaks.mp rfl⟩

end RoadsideSnmp.Console
