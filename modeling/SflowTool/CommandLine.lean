import SflowTool.VlanGrammar

/-! The command line. It is walked from the left: a word that begins with a sign names an option
by its second character, whatever follows that, and some options take the next word. What each
word does goes into one structure, so that for most options the last one holds. -/
namespace SflowTool
open Numerals

section Model

structure SFForwardingTarget where
  host : List UInt8
  port : UInt32
  sock : Nat
deriving DecidableEq

/-- The options: those that the decode consults, and those that it does not. -/
structure SFOptions where
  sFlowInputPort : UInt16
  netFlowOutputPort : UInt16
  netFlowOutputIP : List UInt8
  readPcapFileName : Option (List Char)
  forwardingTargets : List SFForwardingTarget
  listen4 : Bool
  listen6 : Bool
  listenControlled : Bool
  config : SFConfig

/-- The options are zero before the walk, but for three of them. -/
def defaultOptions : SFOptions where
  sFlowInputPort := 6343
  netFlowOutputPort := 0
  netFlowOutputIP := [0, 0, 0, 0]
  readPcapFileName := none
  forwardingTargets := []
  listen4 := true
  listen6 := false
  listenControlled := false
  config := defaultConfig .full

/-- What the walk asks of its surroundings: the address of a host, if it has one, and the sockets
it opens one after the other. -/
structure Surroundings where
  gethostbyname : List Char → Option (List UInt8)
  socket : Nat → Except Text Nat

/-- The walk ends in a message, if it is not that of the usage, and an exit. -/
structure Refusal where
  message : Option Line
  code : Int
deriving DecidableEq

/-- The usage is told, and the process exits. -/
def instructions : Refusal := ⟨none, 1⟩

def charsText (chars : List Char) : Text := chars.map fun char => UInt8.ofNat char.toNat

def maxHostAndPortLen : Nat := 100

/-- A target that cannot be added, with what is reported of it. -/
def refusedTarget (message : Option Line) : Refusal := ⟨message, -35⟩

def addForwardingTarget (around : Surroundings) (hostandport : List Char) (options : SFOptions) :
    Except Refusal SFOptions :=
  if hostandport.length > maxHostAndPortLen then .error (refusedTarget none)
  else
    let hoststr := hostandport.takeWhile (· ≠ '/')
    match hostandport.dropWhile (· ≠ '/') with
    | [] => .error (refusedTarget (some ⟨"host/port - no '/' found\n", []⟩))
    | _ :: p =>
        match around.gethostbyname hoststr with
        | none => .error (refusedTarget
            (some ⟨"hostname %s lookup failed\n", [.text (charsText hoststr)]⟩))
        | some host =>
            -- a port that is not found stays zero
            let port := (scanUnsigned p).getD 0
            if port = 0 ∨ port ≥ 65535 then
              .error (refusedTarget (some ⟨"invalid port: %u\n", [.word port]⟩))
            else
              match around.socket options.forwardingTargets.length with
              | .error strerror => .error (refusedTarget (some ⟨"socket open (for %s) failed: %s",
                  [.text (charsText hostandport), .text strerror]⟩))
              | .ok sock => .ok { options with
                  forwardingTargets := ⟨host, port, sock⟩ :: options.forwardingTargets }

/-- The options that expect an argument. -/
def takesArgument (letter : Char) : Bool :=
  letter = 'p' || letter = 'r' || letter = 'z' || letter = 'c' || letter = 'd' || letter = 'f' ||
    letter = 'v'

def SFOptions.formatted (options : SFOptions) (outputFormat : OutputFormat) : SFOptions :=
  { options with config := { options.config with outputFormat } }

/-- The case of an option; the argument is empty where none is expected. -/
def processOption (around : Surroundings) (plus : Bool) (letter : Char) (argument : List Char)
    (options : SFOptions) : Except Refusal SFOptions :=
  match letter with
  | 'p' => return { options with sFlowInputPort := (atoi argument).toUInt16 }
  | 't' => return options.formatted .pcap
  | 'l' => return options.formatted .line
  | 'H' => return options.formatted .clf
  | 'T' => return options.formatted .tsd
  | 'r' => return { options with readPcapFileName := some argument }
  | 'x' => return { options with config := { options.config with removeContent := true } }
  | 'z' => return { options with config := { options.config with tcpdumpHdrPad := atoi argument } }
  | 'c' =>
      match around.gethostbyname argument with
      | none => throw ⟨some ⟨"netflow collector hostname lookup failed\n", []⟩, -8⟩
      | some address => return { options.formatted .netflow with netFlowOutputIP := address }
  | 'd' => return { options.formatted .netflow with netFlowOutputPort := (atoi argument).toUInt16 }
  | 'e' => return { options with config := { options.config with netFlowPeerAS := true } }
  | 's' => return { options with config := { options.config with disableNetFlowScale := true } }
  | 'S' => return { options with config := { options.config with spoofSource := true } }
  | 'f' => do
      let options ← addForwardingTarget around argument options
      return options.formatted .fwd
  | 'v' =>
      match vlanOption options.config plus argument with
      | .error fatal => throw ⟨some fatal.line, fatal.code⟩
      | .ok config => return { options with config }
  | '4' => return { options with listenControlled := true, listen4 := true, listen6 := plus }
  | '6' => return { options with listenControlled := true, listen4 := false, listen6 := true }
  | _ => throw instructions

/-- The walk through the words that are left. -/
def processWords (around : Surroundings) : List (List Char) → SFOptions → Except Refusal SFOptions
  | [], options => return options
  | word :: words, options => do
      let plus := word.head? = some '+'
      let minus := word.head? = some '-'
      if !plus && !minus then
        throw instructions
      let letter := word.getD 1 '\x00'
      if takesArgument letter then
        match words with
        | [] => throw instructions
        | argument :: words =>
            let options ← processOption around plus letter argument options
            processWords around words options
      else
        let options ← processOption around plus letter [] options
        processWords around words options

/-- The words behind the name of the program. -/
def processCommandLine (around : Surroundings) (argv : List (List Char)) :
    Except Refusal SFOptions :=
  processWords around argv defaultOptions

end Model

section Settings

/-- What an option says. -/
inductive Setting where
  | inputPort (number : UInt16)
  | format (outputFormat : OutputFormat)
  | readPcap (fileName : List Char)
  | removeContent
  | hdrPad (number : UInt32)
  | collector (host : List Char)
  | collectorPort (number : UInt16)
  | peerAS
  | unscaled
  | spoof
  | forward (hostandport : List Char)
  | vlans (plus : Bool) (list : List Char)
  | listen (four six : Bool)

/-- The setting that a letter stands for. -/
def settingOf (plus : Bool) (argument : List Char) : Char → Option Setting
  | 'p' => some (.inputPort (atoi argument).toUInt16)
  | 't' => some (.format .pcap)
  | 'l' => some (.format .line)
  | 'H' => some (.format .clf)
  | 'T' => some (.format .tsd)
  | 'r' => some (.readPcap argument)
  | 'x' => some .removeContent
  | 'z' => some (.hdrPad (atoi argument))
  | 'c' => some (.collector argument)
  | 'd' => some (.collectorPort (atoi argument).toUInt16)
  | 'e' => some .peerAS
  | 's' => some .unscaled
  | 'S' => some .spoof
  | 'f' => some (.forward argument)
  | 'v' => some (.vlans plus argument)
  | '4' => some (.listen true plus)
  | '6' => some (.listen false true)
  | _ => none

/-- A word for an option: a sign, its letter and whatever follows that. -/
structure OptionWord where
  plus : Bool
  letter : Char
  rest : List Char

def OptionWord.word (option : OptionWord) : List Char :=
  (if option.plus then '+' else '-') :: option.letter :: option.rest

/-- The words say these settings, one after the other. -/
inductive Written : List (List Char) → List Setting → Prop where
  | nil : Written [] []
  | flag {words : List (List Char)} {settings : List Setting} (option : OptionWord) (setting : Setting)
      (plain : takesArgument option.letter = false)
      (means : settingOf option.plus [] option.letter = some setting)
      (behind : Written words settings) : Written (option.word :: words) (setting :: settings)
  | argument {words : List (List Char)} {settings : List Setting} (option : OptionWord)
      (argument : List Char) (setting : Setting) (takes : takesArgument option.letter = true)
      (means : settingOf option.plus argument option.letter = some setting)
      (behind : Written words settings) :
      Written (option.word :: argument :: words) (setting :: settings)

def Setting.apply (around : Surroundings) (options : SFOptions) : Setting → Except Refusal SFOptions
  | .inputPort sFlowInputPort => return { options with sFlowInputPort }
  | .format outputFormat => return options.formatted outputFormat
  | .readPcap fileName => return { options with readPcapFileName := some fileName }
  | .removeContent => return { options with config := { options.config with removeContent := true } }
  | .hdrPad tcpdumpHdrPad => return { options with config := { options.config with tcpdumpHdrPad } }
  | .collector host => processOption around false 'c' host options
  | .collectorPort netFlowOutputPort => return { options.formatted .netflow with netFlowOutputPort }
  | .peerAS => return { options with config := { options.config with netFlowPeerAS := true } }
  | .unscaled => return { options with config := { options.config with disableNetFlowScale := true } }
  | .spoof => return { options with config := { options.config with spoofSource := true } }
  | .forward hostandport => processOption around false 'f' hostandport options
  | .vlans plus list => processOption around plus 'v' list options
  | .listen listen4 listen6 => return { options with listenControlled := true, listen4, listen6 }

/-- An option does what it says, and one that is not known ends the walk. -/
theorem processOption_setting (around : Surroundings) (plus : Bool) (letter : Char)
    (argument : List Char) (options : SFOptions) : processOption around plus letter argument options =
      match settingOf plus argument letter with
      | some setting => setting.apply around options
      | none => throw instructions := by
  unfold processOption settingOf
  split <;> rfl

/-- The settings are applied from the left. -/
def applyAll (around : Surroundings) (settings : List Setting) (options : SFOptions) :
    Except Refusal SFOptions :=
  settings.foldlM (Setting.apply around) options

theorem bind_ok_iff {ε α β : Type} {first : Except ε α} {next : α → Except ε β}
    {final : β} : (first >>= next) = .ok final ↔ ∃ middle, first = .ok middle ∧
      next middle = .ok final := by
  cases first with
  | error refusal => exact ⟨nofun, fun ⟨_, other, _⟩ => nomatch other⟩
  | ok value => exact ⟨fun same => ⟨value, rfl, same⟩, fun ⟨_, same, later⟩ => by cases same; exact later⟩

theorem OptionWord.signed (option : OptionWord) :
    (option.word.head? = some '+' ∨ option.word.head? = some '-') ∧
      decide (option.word.head? = some '+') = option.plus ∧
      option.word.getD 1 '\x00' = option.letter := by
  obtain ⟨plus, letter, rest⟩ := option
  cases plus with
  | false => exact ⟨.inr rfl, rfl, rfl⟩
  | true => exact ⟨.inl rfl, rfl, rfl⟩

/-- A word with a sign that names a known option is the word of it. -/
theorem word_signed {word : List Char} (sign : word.head? = some '+' ∨ word.head? = some '-')
    {argument : List Char} {setting : Setting}
    (means : settingOf (decide (word.head? = some '+')) argument (word.getD 1 '\x00') = some setting) :
    ∃ option : OptionWord, option.word = word ∧ option.plus = decide (word.head? = some '+') ∧
      option.letter = word.getD 1 '\x00' := by
  rcases word with _ | ⟨first, _ | ⟨letter, rest⟩⟩
  · rcases sign with plus | minus
    · cases plus
    · cases minus
  · cases means
  · rcases sign with plus | minus
    · cases plus
      exact ⟨⟨true, letter, rest⟩, rfl, rfl, rfl⟩
    · cases minus
      exact ⟨⟨false, letter, rest⟩, rfl, rfl, rfl⟩

theorem processWords_unsigned {around : Surroundings} {word : List Char} {words : List (List Char)}
    {options : SFOptions} (unsigned : ¬(word.head? = some '+' ∨ word.head? = some '-')) :
    processWords around (word :: words) options = .error instructions := by
  obtain ⟨plus, minus⟩ := not_or.mp unsigned
  have neither : (!decide (word.head? = some '+') && !decide (word.head? = some '-')) = true := by
    simp [plus, minus]
  unfold processWords
  simp only [neither, if_true]
  rfl

/-- A word with a sign, and the argument of its option if that takes one. -/
theorem processWords_signed {around : Surroundings} {word : List Char} {words : List (List Char)}
    {options : SFOptions} (sign : word.head? = some '+' ∨ word.head? = some '-') :
    processWords around (word :: words) options =
      if takesArgument (word.getD 1 '\x00') then
        match words with
        | [] => .error instructions
        | argument :: words => processOption around (decide (word.head? = some '+'))
            (word.getD 1 '\x00') argument options >>= processWords around words
      else processOption around (decide (word.head? = some '+')) (word.getD 1 '\x00') [] options >>=
        processWords around words := by
  have signed : (!decide (word.head? = some '+') && !decide (word.head? = some '-')) = false := by
    rcases sign with plus | minus
    · simp [plus]
    · simp [minus]
  conv => lhs; unfold processWords
  simp only [signed, Bool.false_eq_true, if_false]
  rfl

theorem applyAll_cons (around : Surroundings) (setting : Setting) (settings : List Setting)
    (options : SFOptions) : applyAll around (setting :: settings) options =
      setting.apply around options >>= applyAll around settings :=
  List.foldlM_cons

theorem processOption_ok {around : Surroundings} {plus : Bool} {letter : Char}
    {argument : List Char} {options final : SFOptions} :
    processOption around plus letter argument options = .ok final ↔
      ∃ setting, settingOf plus argument letter = some setting ∧
        setting.apply around options = .ok final := by
  rw [processOption_setting]
  cases settingOf plus argument letter with
  | none => exact ⟨nofun, fun ⟨_, absent, _⟩ => nomatch absent⟩
  | some setting =>
      exact ⟨fun applied => ⟨setting, rfl, applied⟩, fun ⟨_, same, applied⟩ => by cases same; exact applied⟩

/-- Words that say settings are walked through as these are. -/
theorem written_processes {around : Surroundings} {words : List (List Char)}
    {settings : List Setting} (written : Written words settings) {options final : SFOptions}
    (applied : applyAll around settings options = .ok final) :
    processWords around words options = .ok final := by
  induction written generalizing options with
  | nil => exact applied
  | flag option setting plain means behind ih =>
      obtain ⟨sign, plus, letter⟩ := option.signed
      rw [applyAll_cons] at applied
      obtain ⟨middle, first, rest⟩ := bind_ok_iff.mp applied
      rw [processWords_signed sign, plus, letter, plain, if_neg Bool.false_ne_true]
      exact bind_ok_iff.mpr ⟨middle, processOption_ok.mpr ⟨setting, means, first⟩, ih rest⟩
  | argument option argument setting takes means behind ih =>
      obtain ⟨sign, plus, letter⟩ := option.signed
      rw [applyAll_cons] at applied
      obtain ⟨middle, first, rest⟩ := bind_ok_iff.mp applied
      rw [processWords_signed sign, plus, letter, takes, if_pos rfl]
      exact bind_ok_iff.mpr ⟨middle, processOption_ok.mpr ⟨setting, means, first⟩, ih rest⟩

/-- Words that are walked through to the end say settings. -/
theorem processed_written (around : Surroundings) (words : List (List Char))
    (options final : SFOptions) : processWords around words options = .ok final →
      ∃ settings, Written words settings ∧ applyAll around settings options = .ok final := by
  match words with
  | [] => exact fun accepted => ⟨[], .nil, accepted⟩
  | word :: words =>
      intro accepted
      have sign : word.head? = some '+' ∨ word.head? = some '-' := by
        by_contra unsigned
        rw [processWords_unsigned unsigned] at accepted
        cases accepted
      rw [processWords_signed sign] at accepted
      -- by the letter, the word behind is the argument or the next option
      by_cases takes : takesArgument (word.getD 1 '\x00') = true
      · rw [if_pos takes] at accepted
        match words with
        | [] => cases accepted
        | argument :: words =>
            obtain ⟨middle, processed, later⟩ := bind_ok_iff.mp accepted
            obtain ⟨setting, means, applied⟩ := processOption_ok.mp processed
            obtain ⟨settings, behind, rest⟩ := processed_written around words middle final later
            obtain ⟨option, rfl, plus, letter⟩ := word_signed sign means
            rw [← plus, ← letter] at means
            rw [← letter] at takes
            refine ⟨_, .argument option argument setting takes means behind, ?_⟩
            rw [applyAll_cons]
            exact bind_ok_iff.mpr ⟨middle, applied, rest⟩
      · rw [if_neg takes] at accepted
        obtain ⟨middle, processed, later⟩ := bind_ok_iff.mp accepted
        obtain ⟨setting, means, applied⟩ := processOption_ok.mp processed
        obtain ⟨settings, behind, rest⟩ := processed_written around words middle final later
        obtain ⟨option, rfl, plus, letter⟩ := word_signed sign means
        rw [← plus, ← letter] at means
        rw [← letter] at takes
        refine ⟨_, .flag option setting (Bool.eq_false_iff.mpr takes) means behind, ?_⟩
        rw [applyAll_cons]
        exact bind_ok_iff.mpr ⟨middle, applied, rest⟩
termination_by words.length

/-- The walk is accepted where the words say settings and these are accepted in their order. -/
theorem processWords_written (around : Surroundings) (words : List (List Char))
    (options final : SFOptions) : processWords around words options = .ok final ↔
      ∃ settings, Written words settings ∧ applyAll around settings options = .ok final := by
  constructor
  · exact processed_written around words options final
  · rintro ⟨settings, written, applied⟩
    exact written_processes written applied

end Settings

section Meaning

/-! What the settings come to, each option by itself. -/

def Setting.inputPort? : Setting → Option UInt16
  | .inputPort number => some number
  | _ => none

/-- A collector and a target choose a format as well. -/
def Setting.format? : Setting → Option OutputFormat
  | .format outputFormat => some outputFormat
  | .collector _ | .collectorPort _ => some .netflow
  | .forward _ => some .fwd
  | _ => none

def Setting.readPcap? : Setting → Option (List Char)
  | .readPcap fileName => some fileName
  | _ => none

def Setting.hdrPad? : Setting → Option UInt32
  | .hdrPad number => some number
  | _ => none

def Setting.collector? (around : Surroundings) : Setting → Option (List UInt8)
  | .collector host => around.gethostbyname host
  | _ => none

def Setting.collectorPort? : Setting → Option UInt16
  | .collectorPort number => some number
  | _ => none

def Setting.listen? : Setting → Option (Bool × Bool)
  | .listen four six => some (four, six)
  | _ => none

def Setting.vlans? : Setting → Option (Bool × List Char)
  | .vlans plus list => some (plus, list)
  | _ => none

def Setting.removesContent : Setting → Bool
  | .removeContent => true
  | _ => false

def Setting.isPeerAS : Setting → Bool
  | .peerAS => true
  | _ => false

def Setting.isUnscaled : Setting → Bool
  | .unscaled => true
  | _ => false

def Setting.isSpoof : Setting → Bool
  | .spoof => true
  | _ => false

/-- A host and a port that a target can have: the host stands before the first slash and the port
behind it. -/
def hostAndPort (around : Surroundings) (hostandport : List Char) : Option (List UInt8 × UInt32) :=
  if hostandport.length > maxHostAndPortLen then none
  else
    match hostandport.dropWhile (· ≠ '/') with
    | [] => none
    | _ :: p =>
        match around.gethostbyname (hostandport.takeWhile (· ≠ '/')) with
        | none => none
        | some host =>
            let port := (scanUnsigned p).getD 0
            if port = 0 ∨ port ≥ 65535 then none else some (host, port)

def Setting.target? (around : Surroundings) : Setting → Option (List UInt8 × UInt32)
  | .forward hostandport => hostAndPort around hostandport
  | _ => none

/-- A name that has to be known is. -/
def Setting.Resolves (around : Surroundings) : Setting → Prop
  | .collector host => (around.gethostbyname host).isSome
  | .forward hostandport => (hostAndPort around hostandport).isSome
  | _ => True

/-- The setting that holds is the last of its kind. -/
def lastOf {α : Type} (pick : Setting → Option α) (settings : List Setting) (otherwise : α) : α :=
  (settings.filterMap pick).getLast?.getD otherwise

def socketAt (around : Surroundings) (index : Nat) : Nat :=
  match around.socket index with
  | .ok sock => sock
  | .error _ => 0

/-- The targets, each with a socket of its own; the one that was added last comes first. -/
def targetsOf (around : Surroundings) (settings : List Setting) : List SFForwardingTarget :=
  ((settings.filterMap (Setting.target? around)).zipIdx.map fun target =>
    ⟨target.1.1, target.1.2, socketAt around target.2⟩).reverse

/-- The options that settings come to, where the VLAN options among them come to this filter. -/
def settled (around : Surroundings) (settings : List Setting) (filter : SFConfig) : SFOptions where
  sFlowInputPort := lastOf Setting.inputPort? settings 6343
  netFlowOutputPort := lastOf Setting.collectorPort? settings 0
  netFlowOutputIP := lastOf (Setting.collector? around) settings [0, 0, 0, 0]
  readPcapFileName := lastOf (fun setting => setting.readPcap?.map some) settings none
  forwardingTargets := targetsOf around settings
  listen4 := (lastOf Setting.listen? settings (true, false)).1
  listen6 := (lastOf Setting.listen? settings (true, false)).2
  listenControlled := settings.any fun setting => setting.listen?.isSome
  config := { defaultConfig .full with
    outputFormat := lastOf Setting.format? settings .full
    removeContent := settings.any Setting.removesContent
    tcpdumpHdrPad := lastOf Setting.hdrPad? settings 0
    netFlowPeerAS := settings.any Setting.isPeerAS
    disableNetFlowScale := settings.any Setting.isUnscaled
    spoofSource := settings.any Setting.isSpoof
    gotVlanFilter := filter.gotVlanFilter
    vlanFilter := filter.vlanFilter }

/-- All names are known, and there is a socket for each target. -/
structure Granted (around : Surroundings) (settings : List Setting) : Prop where
  resolves : ∀ setting ∈ settings, setting.Resolves around
  sockets : ∀ index < (settings.filterMap (Setting.target? around)).length,
    ∃ sock, around.socket index = .ok sock

theorem lastOf_concat {α : Type} (pick : Setting → Option α) (settings : List Setting)
    (setting : Setting) (otherwise : α) : lastOf pick (settings ++ [setting]) otherwise =
      (pick setting).getD (lastOf pick settings otherwise) := by
  unfold lastOf
  rw [List.filterMap_append]
  cases picked : pick setting with
  | none => simp [picked]
  | some value => simp [picked]

theorem any_concat (holds : Setting → Bool) (settings : List Setting) (setting : Setting) :
    (settings ++ [setting]).any holds = bif holds setting then true else settings.any holds := by
  rw [List.any_append, List.any_cons, List.any_nil, Bool.or_false]
  cases holds setting <;> simp

theorem targetsOf_other (around : Surroundings) (settings : List Setting) (setting : Setting)
    (other : setting.target? around = none) :
    targetsOf around (settings ++ [setting]) = targetsOf around settings := by
  unfold targetsOf
  rw [List.filterMap_append, List.filterMap_cons_none other, List.filterMap_nil, List.append_nil]

theorem targetsOf_target (around : Surroundings) (settings : List Setting) (setting : Setting)
    {host : List UInt8} {port : UInt32} (target : setting.target? around = some (host, port)) :
    targetsOf around (settings ++ [setting]) =
      ⟨host, port, socketAt around (settings.filterMap (Setting.target? around)).length⟩ ::
        targetsOf around settings := by
  unfold targetsOf
  rw [List.filterMap_append, List.filterMap_cons_some target, List.filterMap_nil,
    List.zipIdx_append, List.map_append, List.reverse_append]
  simp

def Setting.Plain : Setting → Prop
  | .collector _ | .forward _ | .vlans _ _ => False
  | _ => True

theorem apply_plain (around : Surroundings) (settings : List Setting) (filter : SFConfig)
    (setting : Setting) (plain : setting.Plain) :
    setting.apply around (settled around settings filter) =
      .ok (settled around (settings ++ [setting]) filter) := by
  have targets : setting.target? around = none := by
    cases setting with
    | forward => exact plain.elim
    | _ => rfl
  unfold settled
  simp only [lastOf_concat, any_concat, targetsOf_other around settings setting targets]
  cases setting with
  | collector | forward | vlans => exact plain.elim
  | _ => rfl

theorem collector_apply (around : Surroundings) (host : List Char) (options : SFOptions) :
    (Setting.collector host).apply around options =
      match around.gethostbyname host with
      | none => .error ⟨some ⟨"netflow collector hostname lookup failed\n", []⟩, -8⟩
      | some address => .ok { options.formatted .netflow with netFlowOutputIP := address } := rfl

theorem apply_collector (around : Surroundings) (settings : List Setting) (filter : SFConfig)
    (host : List Char) (final : SFOptions) :
    (Setting.collector host).apply around (settled around settings filter) = .ok final ↔
      (Setting.collector host).Resolves around ∧
        final = settled around (settings ++ [.collector host]) filter := by
  have resolves : (Setting.collector host).Resolves around ↔
      (around.gethostbyname host).isSome = true := Iff.rfl
  rw [collector_apply, resolves]
  cases known : around.gethostbyname host with
  | none => exact ⟨nofun, fun both => nomatch both.1⟩
  | some address =>
      have same : { (settled around settings filter).formatted .netflow with
          netFlowOutputIP := address } =
            settled around (settings ++ [.collector host]) filter := by
        unfold settled
        simp only [lastOf_concat, any_concat, Setting.collector?, known,
          targetsOf_other around settings (.collector host) rfl]
        rfl
      constructor
      · exact fun ended => ⟨rfl, (Except.ok.inj ended).symm.trans same⟩
      · exact fun both => congrArg Except.ok (same.trans both.2.symm)

theorem addForwardingTarget_ok (around : Surroundings) (hostandport : List Char)
    (options final : SFOptions) : addForwardingTarget around hostandport options = .ok final ↔
      ∃ host port sock, hostAndPort around hostandport = some (host, port) ∧
        around.socket options.forwardingTargets.length = .ok sock ∧
        final = { options with
          forwardingTargets := ⟨host, port, sock⟩ :: options.forwardingTargets } := by
  unfold addForwardingTarget hostAndPort
  split
  · exact ⟨nofun, fun ⟨_, _, _, absent, _⟩ => nomatch absent⟩
  · cases hostandport.dropWhile (· ≠ '/') with
    | nil => exact ⟨nofun, fun ⟨_, _, _, absent, _⟩ => nomatch absent⟩
    | cons slash p =>
        dsimp only
        cases around.gethostbyname (hostandport.takeWhile (· ≠ '/')) with
        | none => exact ⟨nofun, fun ⟨_, _, _, absent, _⟩ => nomatch absent⟩
        | some host =>
            dsimp only
            split
            · exact ⟨nofun, fun ⟨_, _, _, absent, _⟩ => nomatch absent⟩
            · cases around.socket options.forwardingTargets.length with
              | error strerror => exact ⟨nofun, fun ⟨_, _, _, _, absent, _⟩ => nomatch absent⟩
              | ok sock =>
                  constructor
                  · exact fun ended => ⟨_, _, _, rfl, rfl, (Except.ok.inj ended).symm⟩
                  · rintro ⟨_, _, _, same, opened, rfl⟩
                    cases same
                    cases opened
                    rfl

theorem apply_forward (around : Surroundings) (settings : List Setting) (filter : SFConfig)
    (hostandport : List Char) (final : SFOptions) :
    (Setting.forward hostandport).apply around (settled around settings filter) = .ok final ↔
      (Setting.forward hostandport).Resolves around ∧
        (∃ sock, around.socket (settings.filterMap (Setting.target? around)).length = .ok sock) ∧
        final = settled around (settings ++ [.forward hostandport]) filter := by
  have applied : (Setting.forward hostandport).apply around (settled around settings filter) =
      addForwardingTarget around hostandport (settled around settings filter) >>= fun options =>
        pure (options.formatted .fwd) := rfl
  have count : (settled around settings filter).forwardingTargets.length =
      (settings.filterMap (Setting.target? around)).length := by
    show (targetsOf around settings).length = _
    unfold targetsOf
    rw [List.length_reverse, List.length_map, List.length_zipIdx]
  have resolves : (Setting.forward hostandport).Resolves around ↔
      (hostAndPort around hostandport).isSome = true := Iff.rfl
  have same {host : List UInt8} {port : UInt32} {sock : Nat}
      (target : hostAndPort around hostandport = some (host, port))
      (opened : around.socket (settings.filterMap (Setting.target? around)).length = .ok sock) :
      SFOptions.formatted { settled around settings filter with
        forwardingTargets := ⟨host, port, sock⟩ :: (settled around settings filter).forwardingTargets }
        .fwd = settled around (settings ++ [.forward hostandport]) filter := by
    have socket : socketAt around (settings.filterMap (Setting.target? around)).length = sock := by
      unfold socketAt
      rw [opened]
    unfold settled
    simp only [lastOf_concat, any_concat]
    rw [targetsOf_target around settings (.forward hostandport) target, socket]
    rfl
  rw [applied, bind_ok_iff, resolves]
  constructor
  · rintro ⟨middle, added, ended⟩
    obtain ⟨host, port, sock, target, opened, rfl⟩ := (addForwardingTarget_ok ..).mp added
    rw [count] at opened
    exact ⟨by rw [target]; rfl, ⟨sock, opened⟩,
      (Except.ok.inj ended).symm.trans (same target opened)⟩
  · rintro ⟨known, ⟨sock, opened⟩, rfl⟩
    obtain ⟨⟨host, port⟩, target⟩ := Option.isSome_iff_exists.mp known
    exact ⟨_, (addForwardingTarget_ok ..).mpr ⟨host, port, sock, target, by rw [count]; exact opened, rfl⟩,
      congrArg Except.ok (same target opened)⟩

theorem vlanOption_fields {one two : SFConfig} (got : two.gotVlanFilter = one.gotVlanFilter)
    (filter : two.vlanFilter = one.vlanFilter) (plus : Bool) (list : List Char) :
    vlanOption two plus list = (vlanOption one plus list).map fun other =>
      { two with gotVlanFilter := other.gotVlanFilter, vlanFilter := other.vlanFilter } := by
  unfold vlanOption
  cases plus with
  | true =>
      rw [if_pos rfl, if_pos rfl, filter]
      cases parseVlanFilter one.vlanFilter true list with
      | error fatal => rfl
      | ok array => rfl
  | false =>
      rw [if_neg Bool.false_ne_true, if_neg Bool.false_ne_true, got]
      cases given : one.gotVlanFilter with
      | false =>
          simp only [if_true, filter]
          cases parseVlanFilter (setVlans true filterMaxVlan.toNat 0 one.vlanFilter) false list with
          | error fatal => rfl
          | ok array => rfl
      | true =>
          simp only [Bool.true_eq_false, if_false, filter]
          cases parseVlanFilter one.vlanFilter false list with
          | error fatal => rfl
          | ok array => exact congrArg Except.ok (by simp [got, given])

theorem apply_vlans (around : Surroundings) (settings : List Setting) (filter : SFConfig)
    (plus : Bool) (list : List Char) (final : SFOptions) :
    (Setting.vlans plus list).apply around (settled around settings filter) = .ok final ↔
      ∃ other, vlanOption filter plus list = .ok other ∧
        final = settled around (settings ++ [.vlans plus list]) other := by
  have applied : (Setting.vlans plus list).apply around (settled around settings filter) =
      match vlanOption (settled around settings filter).config plus list with
      | .error fatal => .error ⟨some fatal.line, fatal.code⟩
      | .ok config => .ok { settled around settings filter with config } := rfl
  have fields := @vlanOption_fields filter (settled around settings filter).config rfl rfl plus list
  have same (other : SFConfig) : { settled around settings filter with
      config := { (settled around settings filter).config with
        gotVlanFilter := other.gotVlanFilter, vlanFilter := other.vlanFilter } } =
        settled around (settings ++ [.vlans plus list]) other := by
    unfold settled
    simp only [lastOf_concat, any_concat, targetsOf_other around settings (.vlans plus list) rfl]
    rfl
  rw [applied, fields]
  cases vlanOption filter plus list with
  | error fatal => exact ⟨nofun, fun ⟨_, absent, _⟩ => nomatch absent⟩
  | ok other =>
      constructor
      · exact fun ended => ⟨other, rfl, (Except.ok.inj ended).symm.trans (same other)⟩
      · rintro ⟨_, found, rfl⟩
        cases found
        exact congrArg Except.ok (same other)

theorem vlanOptions_append (first second : List (Bool × List Char)) (start : SFConfig) :
    vlanOptions (first ++ second) start = vlanOptions first start >>= vlanOptions second := by
  induction first generalizing start with
  | nil => rfl
  | cons option first ih =>
      obtain ⟨sign, text⟩ := option
      show (vlanOption start sign text >>= vlanOptions (first ++ second)) =
        (vlanOption start sign text >>= vlanOptions first) >>= _
      cases vlanOption start sign text with
      | error fatal => rfl
      | ok next => exact ih next

theorem granted_concat {around : Surroundings} {settings : List Setting} {setting : Setting} :
    Granted around (settings ++ [setting]) ↔ Granted around settings ∧ setting.Resolves around ∧
      ((setting.target? around).isSome →
        ∃ sock, around.socket (settings.filterMap (Setting.target? around)).length = .ok sock) := by
  constructor
  · rintro ⟨resolves, sockets⟩
    refine ⟨⟨fun other found => resolves other (List.mem_append_left _ found), fun index below => ?_⟩,
      resolves setting (List.mem_append_right _ (List.mem_singleton_self setting)), fun targeted => ?_⟩
    · apply sockets index
      rw [List.filterMap_append, List.length_append]
      omega
    · apply sockets
      obtain ⟨target, known⟩ := Option.isSome_iff_exists.mp targeted
      rw [List.filterMap_append, List.filterMap_cons_some known, List.length_append, List.length_cons]
      omega
  · rintro ⟨⟨resolves, sockets⟩, known, opened⟩
    refine ⟨fun other found => ?_, fun index below => ?_⟩
    · rcases List.mem_append.mp found with earlier | last
      · exact resolves other earlier
      · rw [List.mem_singleton.mp last]
        exact known
    · rw [List.filterMap_append, List.length_append] at below
      by_cases earlier : index < (settings.filterMap (Setting.target? around)).length
      · exact sockets index earlier
      · cases target : setting.target? around with
        | none =>
            rw [List.filterMap_cons_none target, List.filterMap_nil, List.length_nil] at below
            omega
        | some hostport =>
            rw [List.filterMap_cons_some target, List.filterMap_nil, List.length_singleton] at below
            obtain rfl : index = (settings.filterMap (Setting.target? around)).length := by omega
            exact opened (by rw [target]; rfl)

/-- The next setting over those that have been applied. -/
theorem apply_settled (around : Surroundings) (settings : List Setting) (filter : SFConfig)
    (setting : Setting) (final : SFOptions) :
    setting.apply around (settled around settings filter) = .ok final ↔
      setting.Resolves around ∧
        ((setting.target? around).isSome →
          ∃ sock, around.socket (settings.filterMap (Setting.target? around)).length = .ok sock) ∧
        ∃ other, vlanOptions setting.vlans?.toList filter = .ok other ∧
          final = settled around (settings ++ [setting]) other := by
  have single (plus : Bool) (list : List Char) :
      vlanOptions [(plus, list)] filter = vlanOption filter plus list := bind_pure _
  by_cases plain : setting.Plain
  · have known : setting.Resolves around := by
      cases setting with
      | collector | forward => exact plain.elim
      | _ => trivial
    have untargeted : setting.target? around = none := by
      cases setting with
      | forward => exact plain.elim
      | _ => rfl
    have unlisted : setting.vlans? = none := by
      cases setting with
      | vlans => exact plain.elim
      | _ => rfl
    rw [apply_plain around settings filter setting plain, untargeted, unlisted]
    constructor
    · exact fun ended => ⟨known, nofun, filter, rfl, (Except.ok.inj ended).symm⟩
    · rintro ⟨-, -, _, ⟨⟩, rfl⟩
      rfl
  · cases setting with
    | collector host =>
        rw [apply_collector]
        constructor
        · exact fun ⟨known, ended⟩ => ⟨known, nofun, filter, rfl, ended⟩
        · rintro ⟨known, -, _, ⟨⟩, rfl⟩
          exact ⟨known, rfl⟩
    | forward hostandport =>
        rw [apply_forward]
        constructor
        · exact fun ⟨known, opened, ended⟩ => ⟨known, fun _ => opened, filter, rfl, ended⟩
        · rintro ⟨known, opened, _, ⟨⟩, rfl⟩
          exact ⟨known, opened known, rfl⟩
    | vlans plus list =>
        rw [apply_vlans]
        constructor
        · exact fun ⟨other, found, ended⟩ => ⟨trivial, nofun, other, (single plus list).trans found, ended⟩
        · rintro ⟨-, -, other, found, rfl⟩
          exact ⟨other, (single plus list).symm.trans found, rfl⟩
    | _ => exact absurd trivial plain

/-- All settings, by induction on how many have been applied. -/
theorem applyAll_settled (around : Surroundings) (settings : List Setting) (final : SFOptions) :
    applyAll around settings defaultOptions = .ok final ↔
      Granted around settings ∧
        ∃ filter, vlanOptions (settings.filterMap Setting.vlans?) (defaultConfig .full) = .ok filter ∧
          final = settled around settings filter := by
  induction settings using List.reverseRecOn generalizing final with
  | nil =>
      constructor
      · exact fun ended => ⟨⟨nofun, nofun⟩, defaultConfig .full, rfl, (Except.ok.inj ended).symm⟩
      · rintro ⟨-, _, ⟨⟩, rfl⟩
        rfl
  | append_singleton settings setting ih =>
      have applied : applyAll around (settings ++ [setting]) defaultOptions =
          applyAll around settings defaultOptions >>= fun middle => setting.apply around middle := by
        unfold applyAll
        rw [List.foldlM_append]
        refine congrArg _ (funext fun middle => ?_)
        exact bind_pure _
      have lists : vlanOptions ((settings ++ [setting]).filterMap Setting.vlans?) (defaultConfig .full) =
          vlanOptions (settings.filterMap Setting.vlans?) (defaultConfig .full) >>=
            vlanOptions setting.vlans?.toList := by
        rw [← vlanOptions_append, List.filterMap_append]
        cases picked : setting.vlans? with
        | none => rw [List.filterMap_cons_none picked]; rfl
        | some option => rw [List.filterMap_cons_some picked]; rfl
      rw [applied, bind_ok_iff, granted_concat, lists]
      constructor
      · rintro ⟨middle, before, last⟩
        obtain ⟨granted, filter, listed, rfl⟩ := (ih middle).mp before
        obtain ⟨known, opened, other, further, ended⟩ := (apply_settled ..).mp last
        exact ⟨⟨granted, known, opened⟩, other, bind_ok_iff.mpr ⟨filter, listed, further⟩, ended⟩
      · rintro ⟨⟨granted, known, opened⟩, other, listed, ended⟩
        obtain ⟨filter, before, further⟩ := bind_ok_iff.mp listed
        exact ⟨settled around settings filter, (ih _).mpr ⟨granted, filter, before, rfl⟩,
          (apply_settled ..).mpr ⟨known, opened, other, further, ended⟩⟩

end Meaning

end SflowTool
