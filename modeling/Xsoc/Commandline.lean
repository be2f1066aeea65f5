import Xsoc.Config

/-!
# The command line

The client reads its arguments one after the other. Some take the next argument as their value, whatever it looks like.

* `Arguments.parse`, `loadFromIter` : the code, up to the configuration;
* `Item` : what a user asks for with one option, or with a word; `Item.render` : how it is written;
* `Legal`, `Agree` : which items go together; `meaning` : what they ask for;
* `load_from_iter_ok_iff` : what is accepted, and how it is understood;
* `load_from_iter_prints_iff` : when the version or the help is printed instead.
-/

set_option autoImplicit false

namespace Xsoc

inductive ClientCommand
  | run
  | once
  | probe
  | pair
  | doctor
  | status
  deriving DecidableEq, Repr

inductive OutputMode
  | json
  | human
  deriving DecidableEq, Repr

namespace ClientCommand

/-- How the user spells it. -/
def word : ClientCommand → String
  | run => "run"
  | once => "once"
  | probe => "probe"
  | pair => "pair"
  | doctor => "doctor"
  | status => "status"

/-- `Debug` -/
def debug : ClientCommand → String
  | run => "Run"
  | once => "Once"
  | probe => "Probe"
  | pair => "Pair"
  | doctor => "Doctor"
  | status => "Status"

end ClientCommand

/-- What `load_from_iter` keeps while it reads. -/
structure Arguments where
  command : Option ClientCommand
  windowsService : Bool
  configPath : Option PathBuf
  serverOverride : Option String
  endpointOverride : Option String
  replacePendingPairing : Bool
  outputMode : OutputMode
  outputModeSelected : Bool
  doctorDelivery : Bool
  deriving DecidableEq

/-- The path is that of `XSOC_CONFIG`, where it is set. -/
def Arguments.new (configPath : Option PathBuf) : Arguments :=
  ⟨none, false, configPath, none, none, false, .human, false, false⟩

inductive Parsed
  | arguments (a : Arguments)
  /-- The client prints its version and exits. -/
  | version
  | help
  deriving DecidableEq

def selectCommand (selected : Option ClientCommand) (command : ClientCommand) (spelling : String) :
    Except Error (Option ClientCommand) :=
  match selected with
  | some previous =>
    .error (.message s!"multiple commands are not allowed (selected {previous.debug}, then {spelling})")
  | none => .ok (some command)

def validateWindowsServicePosition (argumentPosition : Nat) : Except Error Unit :=
  check (argumentPosition = 1) (.message "--windows-service must be the first argument")

/-- The next argument, whatever it looks like. -/
def Arguments.output (format : String) : Except Error OutputMode :=
  match format with
  | "human" => .ok .human
  | "json" => .ok .json
  | other => .error (.message s!"unsupported output format {other}; use human or json")

/-- The loop; `position` counts the options and the words that were read, but not the values. -/
def Arguments.parse (position : Nat) (a : Arguments) : List String → Except Error Parsed
  | [] => .ok (.arguments a)
  | arg :: args =>
    match arg with
    | "run" => do
      let command ← selectCommand a.command .run "run"
      parse (position + 1) { a with command := command } args
    | "once" => do
      let command ← selectCommand a.command .once "once"
      parse (position + 1) { a with command := command } args
    | "probe" => do
      let command ← selectCommand a.command .probe "probe"
      parse (position + 1) { a with command := command } args
    | "pair" => do
      let command ← selectCommand a.command .pair "pair"
      parse (position + 1) { a with command := command } args
    | "doctor" => do
      let command ← selectCommand a.command .doctor "doctor"
      parse (position + 1) { a with command := command } args
    | "status" => do
      let command ← selectCommand a.command .status "status"
      parse (position + 1) { a with command := command } args
    | "--windows-service" => do
      validateWindowsServicePosition (position + 1)
      check (a.windowsService = false) (.message "--windows-service may be specified only once")
      parse (position + 1) { a with windowsService := true } args
    | "--config" =>
      match args with
      | value :: args => parse (position + 1) { a with configPath := some (.text value) } args
      | [] => .error (.message "--config requires a file path")
    | "--server" =>
      match args with
      | value :: args => parse (position + 1) { a with serverOverride := some value } args
      | [] => .error (.message "--server requires a URL")
    | "--endpoint" =>
      match args with
      | value :: args => parse (position + 1) { a with endpointOverride := some value } args
      | [] => .error (.message "--endpoint requires a report URL")
    | "--replace-pending-pairing" => do
      check (a.replacePendingPairing = false) (.message "--replace-pending-pairing may be specified only once")
      parse (position + 1) { a with replacePendingPairing := true } args
    | "--output" => do
      check (a.outputModeSelected = false) (.message "--output may be specified only once")
      match args with
      | value :: args =>
        let mode ← output value
        parse (position + 1) { a with outputMode := mode, outputModeSelected := true } args
      | [] => .error (.message "--output requires human or json")
    | "--json" => do
      check (a.outputModeSelected = false) (.message "--json conflicts with an earlier output option")
      parse (position + 1) { a with outputMode := .json, outputModeSelected := true } args
    | "--delivery" => do
      check (a.doctorDelivery = false) (.message "--delivery may be specified only once")
      parse (position + 1) { a with doctorDelivery := true } args
    | "-V" | "--version" => .ok .version
    | "-h" | "--help" => do
      check (a.windowsService = false) (.message "--help is not available in Windows service mode")
      .ok .help
    | other => .error (.message s!"unknown argument: {other}")

/-- `validate_windows_service_invocation`; `windows` : the platform. -/
def validateWindowsServiceInvocation (windows requested : Bool) (command : ClientCommand) : Except Error Unit :=
  if !requested then .ok ()
  else if windows then
    check (command = .run) (.message "--windows-service may be used only with the run command")
  else .error (.message "--windows-service is available only on Windows")

/-- What the loop is followed by. -/
def Arguments.finish (windows : Bool) (a : Arguments) : Except Error (Arguments × ClientCommand) := do
  let command := a.command.getD .run
  check (a.doctorDelivery = false ∨ command = .doctor) (.message "--delivery may be used only with doctor")
  validateWindowsServiceInvocation windows a.windowsService command
  check (a.replacePendingPairing = false ∨ command = .pair) (.message "replacement requires pair")
  .ok (a, command)

inductive Loaded
  | arguments (a : Arguments) (command : ClientCommand)
  | version
  | help
  deriving DecidableEq

/-- `load_from_iter`, up to the configuration. -/
def loadFromIter (windows : Bool) (configPath : Option PathBuf) (arguments : List String) : Except Error Loaded := do
  match ← (Arguments.new configPath).parse 0 arguments with
  | .arguments a =>
    let (a, command) ← a.finish windows
    .ok (.arguments a command)
  | .version => .ok .version
  | .help => .ok .help

/-! ## What is asked for -/

/-- An option with its value, or a word. -/
inductive Item
  | command (c : ClientCommand)
  | windowsService
  | config (path : String)
  | server (url : String)
  | endpoint (url : String)
  | replacePendingPairing
  | output (mode : OutputMode)
  | json
  | delivery
  deriving DecidableEq

namespace Item

def render : Item → List String
  | command c => [c.word]
  | windowsService => ["--windows-service"]
  | config path => ["--config", path]
  | server url => ["--server", url]
  | endpoint url => ["--endpoint", url]
  | replacePendingPairing => ["--replace-pending-pairing"]
  | output .human => ["--output", "human"]
  | output .json => ["--output", "json"]
  | json => ["--json"]
  | delivery => ["--delivery"]

def command? : Item → Option ClientCommand
  | command c => some c
  | _ => none

def config? : Item → Option PathBuf
  | config path => some (.text path)
  | _ => none

def server? : Item → Option String
  | server url => some url
  | _ => none

def endpoint? : Item → Option String
  | endpoint url => some url
  | _ => none

def mode? : Item → Option OutputMode
  | output mode => some mode
  | json => some .json
  | _ => none

end Item

/-- What the last of the items says that says anything. -/
def lastOf {α : Type} (f : Item → Option α) (items : List Item) : Option α := (items.filterMap f).getLast?

/-- What the items ask for; `configPath` is what they go before. -/
def meaning (configPath : Option PathBuf) (items : List Item) : Arguments where
  command := lastOf Item.command? items
  windowsService := items.contains .windowsService
  configPath := (lastOf Item.config? items).or configPath
  serverOverride := lastOf Item.server? items
  endpointOverride := lastOf Item.endpoint? items
  replacePendingPairing := items.contains .replacePendingPairing
  outputMode := (lastOf Item.mode? items).getD .human
  outputModeSelected := (lastOf Item.mode? items).isSome
  doctorDelivery := items.contains .delivery

/-- What may be said at all: one command, the Windows service first, one format, and no switch twice. -/
structure Legal (items : List Item) : Prop where
  commands : (items.filterMap Item.command?).length ≤ 1
  service : .windowsService ∉ items.tail
  modes : (items.filterMap Item.mode?).length ≤ 1
  replacements : items.count .replacePendingPairing ≤ 1
  deliveries : items.count .delivery ≤ 1

/-- What is said goes with the command. -/
structure Agree (windows : Bool) (items : List Item) : Prop where
  delivery : .delivery ∈ items → lastOf Item.command? items = some .doctor
  service : .windowsService ∈ items → windows = true ∧ (lastOf Item.command? items).getD .run = .run
  replacement : .replacePendingPairing ∈ items → lastOf Item.command? items = some .pair

/-! ## One item -/

namespace Item

/-- What an item does to what was read before it. -/
def apply (a : Arguments) : Item → Arguments
  | command c => { a with command := some c }
  | windowsService => { a with windowsService := true }
  | config path => { a with configPath := some (.text path) }
  | server url => { a with serverOverride := some url }
  | endpoint url => { a with endpointOverride := some url }
  | replacePendingPairing => { a with replacePendingPairing := true }
  | output mode => { a with outputMode := mode, outputModeSelected := true }
  | json => { a with outputMode := .json, outputModeSelected := true }
  | delivery => { a with doctorDelivery := true }

/-- When an item is read without an error. -/
def Allowed (position : Nat) (a : Arguments) : Item → Prop
  | command _ => a.command = none
  | windowsService => position = 0 ∧ a.windowsService = false
  | config _ | server _ | endpoint _ => True
  | replacePendingPairing => a.replacePendingPairing = false
  | output _ | json => a.outputModeSelected = false
  | delivery => a.doctorDelivery = false

end Item

variable {position : Nat} {a : Arguments} {item : Item} {items : List Item} {rest : List String}

theorem parse_render (h : item.Allowed position a) :
    a.parse position (item.render ++ rest) = (item.apply a).parse (position + 1) rest := by
  cases item with
  | command c =>
    change a.command = none at h
    cases c <;> simp [Item.render, ClientCommand.word, Arguments.parse, h, selectCommand, Item.apply] <;> rfl
  | windowsService =>
    obtain ⟨rfl, h⟩ := h
    simp [Item.render, Arguments.parse, validateWindowsServicePosition, check, h, Item.apply]
    rfl
  | config path | server url | endpoint url => simp [Item.render, Arguments.parse, Item.apply]
  | replacePendingPairing =>
    change a.replacePendingPairing = false at h
    simp [Item.render, Arguments.parse, check, h, Item.apply]
    rfl
  | output mode =>
    change a.outputModeSelected = false at h
    cases mode <;> simp [Item.render, Arguments.parse, check, h, Item.apply, Arguments.output] <;> rfl
  | json =>
    change a.outputModeSelected = false at h
    simp [Item.render, Arguments.parse, check, h, Item.apply]
    rfl
  | delivery =>
    change a.doctorDelivery = false at h
    simp [Item.render, Arguments.parse, check, h, Item.apply]
    rfl

theorem selectCommand_eq_ok {selected : Option ClientCommand} {c : ClientCommand} {spelling : String}
    {chosen : Option ClientCommand} (h : selectCommand selected c spelling = .ok chosen) :
    selected = none ∧ chosen = some c := by
  cases selected with
  | none =>
    cases h
    exact ⟨rfl, rfl⟩
  | some previous => cases h

/-- What is read without an error begins with an item, or ends the reading. -/
theorem parse_cons_eq_ok {arg : String} {args : List String} {p : Parsed} (h : a.parse position (arg :: args) = .ok p) :
    (∃ (item : Item) (rest : List String), arg :: args = item.render ++ rest ∧ item.Allowed position a ∧
      (item.apply a).parse (position + 1) rest = .ok p) ∨
    (p = .version ∧ (arg = "-V" ∨ arg = "--version")) ∨
    (p = .help ∧ (arg = "-h" ∨ arg = "--help") ∧ a.windowsService = false) := by
  have hcommand : ∀ c : ClientCommand, arg = c.word →
      (selectCommand a.command c c.word >>= fun command =>
        { a with command := command }.parse (position + 1) args) = .ok p →
      ∃ (item : Item) (rest : List String), arg :: args = item.render ++ rest ∧ item.Allowed position a ∧
        (item.apply a).parse (position + 1) rest = .ok p := by
    intro c harg hc
    obtain ⟨chosen, hchosen, hrest⟩ := Except.bind_eq_ok.mp hc
    obtain ⟨hnone, rfl⟩ := selectCommand_eq_ok hchosen
    exact ⟨.command c, args, by rw [harg]; rfl, hnone, hrest⟩
  unfold Arguments.parse at h
  split at h
  · exact Or.inl (hcommand .run rfl h)
  · exact Or.inl (hcommand .once rfl h)
  · exact Or.inl (hcommand .probe rfl h)
  · exact Or.inl (hcommand .pair rfl h)
  · exact Or.inl (hcommand .doctor rfl h)
  · exact Or.inl (hcommand .status rfl h)
  · obtain ⟨_, hposition, h⟩ := Except.bind_eq_ok.mp h
    obtain ⟨_, honce, h⟩ := Except.bind_eq_ok.mp h
    have hfirst : position + 1 = 1 := check_eq_ok.mp hposition
    exact Or.inl ⟨.windowsService, args, rfl, ⟨by omega, check_eq_ok.mp honce⟩, h⟩
  · split at h
    · next value rest => exact Or.inl ⟨.config value, rest, rfl, trivial, h⟩
    · cases h
  · split at h
    · next value rest => exact Or.inl ⟨.server value, rest, rfl, trivial, h⟩
    · cases h
  · split at h
    · next value rest => exact Or.inl ⟨.endpoint value, rest, rfl, trivial, h⟩
    · cases h
  · rw [Except.bind_eq_ok] at h
    obtain ⟨_, honce, h⟩ := h
    have hnot := check_eq_ok.mp honce
    exact Or.inl ⟨.replacePendingPairing, args, rfl, hnot, h⟩
  · rw [Except.bind_eq_ok] at h
    obtain ⟨_, honce, h⟩ := h
    have hnot := check_eq_ok.mp honce
    split at h
    · next value rest =>
      obtain ⟨mode, hmode, h⟩ := Except.bind_eq_ok.mp h
      unfold Arguments.output at hmode
      split at hmode
      · cases hmode
        exact Or.inl ⟨.output .human, rest, rfl, hnot, h⟩
      · cases hmode
        exact Or.inl ⟨.output .json, rest, rfl, hnot, h⟩
      · cases hmode
    · cases h
  · rw [Except.bind_eq_ok] at h
    obtain ⟨_, honce, h⟩ := h
    have hnot := check_eq_ok.mp honce
    exact Or.inl ⟨.json, args, rfl, hnot, h⟩
  · rw [Except.bind_eq_ok] at h
    obtain ⟨_, honce, h⟩ := h
    have hnot := check_eq_ok.mp honce
    exact Or.inl ⟨.delivery, args, rfl, hnot, h⟩
  · cases h
    exact Or.inr (Or.inl ⟨rfl, Or.inl rfl⟩)
  · cases h
    exact Or.inr (Or.inl ⟨rfl, Or.inr rfl⟩)
  · rw [Except.bind_eq_ok] at h
    obtain ⟨_, honce, h⟩ := h
    have hnot := check_eq_ok.mp honce
    cases h
    exact Or.inr (Or.inr ⟨rfl, Or.inl rfl, hnot⟩)
  · rw [Except.bind_eq_ok] at h
    obtain ⟨_, honce, h⟩ := h
    have hnot := check_eq_ok.mp honce
    cases h
    exact Or.inr (Or.inr ⟨rfl, Or.inr rfl, hnot⟩)
  · cases h

/-! ## Lists of items -/

/-- Each item is read without an error, after the ones before it. -/
def Readable (position : Nat) (a : Arguments) : List Item → Prop
  | [] => True
  | item :: items => item.Allowed position a ∧ Readable (position + 1) (item.apply a) items

theorem parse_items (h : Readable position a items) : a.parse position (items.flatMap Item.render ++ rest) =
    (items.foldl Item.apply a).parse (position + items.length) rest := by
  induction items generalizing position a with
  | nil => rfl
  | cons item items ih =>
    rw [List.flatMap_cons, List.append_assoc, parse_render h.1, ih h.2, List.foldl_cons, List.length_cons,
      Nat.add_assoc, Nat.add_comm 1]

theorem length_render_pos (item : Item) : 0 < item.render.length := by
  cases item with
  | output mode => cases mode <;> exact Nat.succ_pos _
  | command | windowsService | config | server | endpoint | replacePendingPairing | json | delivery =>
    exact Nat.succ_pos _

/-- What is read without an error is items, and then the end or an option that ends the reading. -/
theorem parse_eq_ok {p : Parsed} : ∀ (n : Nat) {position : Nat} {a : Arguments} {args : List String}, args.length ≤ n →
    a.parse position args = .ok p → ∃ items, Readable position a items ∧
      ((args = items.flatMap Item.render ∧ p = .arguments (items.foldl Item.apply a)) ∨
        ∃ arg rest, args = items.flatMap Item.render ++ arg :: rest ∧
          ((p = .version ∧ (arg = "-V" ∨ arg = "--version")) ∨
            (p = .help ∧ (arg = "-h" ∨ arg = "--help") ∧ (items.foldl Item.apply a).windowsService = false)))
  | 0, position, a, args, hn, h => by
    rw [List.eq_nil_of_length_eq_zero (Nat.le_zero.mp hn)] at h ⊢
    cases h
    exact ⟨[], trivial, Or.inl ⟨rfl, rfl⟩⟩
  | n + 1, position, a, [], _, h => by
    cases h
    exact ⟨[], trivial, Or.inl ⟨rfl, rfl⟩⟩
  | n + 1, position, a, arg :: args, hn, h => by
    rcases parse_cons_eq_ok h with ⟨item, rest, heq, hallowed, hrest⟩ | ⟨rfl, harg⟩ | ⟨rfl, harg, hservice⟩
    · have hlength : rest.length ≤ n := by
        have hlen := congrArg List.length heq
        rw [List.length_append, List.length_cons] at hlen
        have hpos := length_render_pos item
        rw [List.length_cons] at hn
        omega
      obtain ⟨items, hreads, hcases⟩ := parse_eq_ok n hlength hrest
      refine ⟨item :: items, ⟨hallowed, hreads⟩, ?_⟩
      rw [heq, List.flatMap_cons, List.foldl_cons]
      rcases hcases with ⟨hargs, hp⟩ | ⟨arg', rest', hargs, hp⟩
      · exact Or.inl ⟨by rw [hargs], hp⟩
      · exact Or.inr ⟨arg', rest', by rw [hargs, List.append_assoc], hp⟩
    · exact ⟨[], trivial, Or.inr ⟨arg, args, rfl, Or.inl ⟨rfl, harg⟩⟩⟩
    · exact ⟨[], trivial, Or.inr ⟨arg, args, rfl, Or.inr ⟨rfl, harg, hservice⟩⟩⟩

/-- There is room for the items in what is kept. -/
structure Suits (a : Arguments) (items : List Item) : Prop where
  commands : a.command.toList.length + (items.filterMap Item.command?).length ≤ 1
  modes : a.outputModeSelected.toNat + (items.filterMap Item.mode?).length ≤ 1
  replacements : a.replacePendingPairing.toNat + items.count .replacePendingPairing ≤ 1
  deliveries : a.doctorDelivery.toNat + items.count .delivery ≤ 1

theorem suits_iff : Suits a items ↔ a.command.toList.length + (items.filterMap Item.command?).length ≤ 1 ∧
    a.outputModeSelected.toNat + (items.filterMap Item.mode?).length ≤ 1 ∧
    a.replacePendingPairing.toNat + items.count .replacePendingPairing ≤ 1 ∧
    a.doctorDelivery.toNat + items.count .delivery ≤ 1 :=
  ⟨fun h => ⟨h.commands, h.modes, h.replacements, h.deliveries⟩, fun ⟨h₁, h₂, h₃, h₄⟩ => ⟨h₁, h₂, h₃, h₄⟩⟩

theorem suits_cons (position : Nat) (hitem : item ≠ .windowsService) :
    Suits a (item :: items) ↔ item.Allowed position a ∧ Suits (item.apply a) items := by
  rw [suits_iff, suits_iff]
  cases item with
  | windowsService => exact absurd rfl hitem
  | command c => cases hc : a.command <;>
    simp [List.filterMap_cons, Item.command?, Item.mode?, Item.Allowed, Item.apply, hc]
  | config | server | endpoint => simp [List.filterMap_cons, Item.command?, Item.mode?, Item.Allowed, Item.apply]
  | replacePendingPairing =>
    cases hc : a.replacePendingPairing <;>
      simp [List.filterMap_cons, Item.command?, Item.mode?, Item.Allowed, Item.apply, hc]
  | output | json =>
    cases hc : a.outputModeSelected <;>
      simp [List.filterMap_cons, Item.command?, Item.mode?, Item.Allowed, Item.apply, hc]
  | delivery =>
    cases hc : a.doctorDelivery <;> simp [List.filterMap_cons, Item.command?, Item.mode?, Item.Allowed, Item.apply, hc]

/-- The service is the first item or none. -/
theorem readable_succ_iff : Readable (position + 1) a items ↔ .windowsService ∉ items ∧ Suits a items := by
  induction items generalizing position a with
  | nil =>
    have hsuits : Suits a [] := ⟨by cases a.command <;> simp, Bool.toNat_le _, Bool.toNat_le _, Bool.toNat_le _⟩
    simp [Readable, hsuits]
  | cons item items ih =>
    by_cases hitem : item = .windowsService
    · simp [Readable, hitem, Item.Allowed]
    · rw [Readable, ih, suits_cons (position + 1) hitem, List.mem_cons, not_or]
      exact ⟨fun ⟨hallowed, hnot, hsuits⟩ => ⟨⟨Ne.symm hitem, hnot⟩, hallowed, hsuits⟩,
        fun ⟨⟨_, hnot⟩, hallowed, hsuits⟩ => ⟨hallowed, hnot, hsuits⟩⟩

theorem legal_iff (configPath : Option PathBuf) :
    Legal items ↔ .windowsService ∉ items.tail ∧ Suits (Arguments.new configPath) items := by
  rw [suits_iff]
  simp only [Arguments.new, Option.toList_none, List.length_nil, Nat.zero_add, Bool.toNat_false]
  exact ⟨fun h => ⟨h.service, h.commands, h.modes, h.replacements, h.deliveries⟩,
    fun ⟨h₁, h₂, h₃, h₄, h₅⟩ => ⟨h₂, h₁, h₃, h₄, h₅⟩⟩

/-- What is read from the beginning is what may be said. -/
theorem readable_new_iff (configPath : Option PathBuf) : Readable 0 (Arguments.new configPath) items ↔ Legal items := by
  rw [legal_iff configPath]
  cases items with
  | nil => simp [Readable, suits_iff, Arguments.new]
  | cons item items =>
    by_cases hitem : item = .windowsService
    · subst hitem
      rw [Readable, readable_succ_iff, List.tail_cons, suits_iff, suits_iff]
      simp [Item.Allowed, Item.apply, Arguments.new, List.filterMap_cons, Item.command?, Item.mode?]
    · rw [Readable, readable_succ_iff, List.tail_cons, suits_cons 0 hitem]
      exact ⟨fun ⟨hallowed, hnot, hsuits⟩ => ⟨hnot, hallowed, hsuits⟩,
        fun ⟨hnot, hallowed, hsuits⟩ => ⟨hallowed, hnot, hsuits⟩⟩

/-! ## What is understood -/

@[simp] theorem lastOf_nil {α : Type} (f : Item → Option α) : lastOf f [] = none := rfl

@[simp] theorem lastOf_cons {α : Type} (f : Item → Option α) (item : Item) (items : List Item) :
    lastOf f (item :: items) = (lastOf f items).or (f item) := by
  unfold lastOf
  cases h : f item with
  | none => simp [h]
  | some value =>
    rw [List.filterMap_cons_some h, List.getLast?_cons]
    cases (items.filterMap f).getLast? <;> rfl

/-- What is kept after the items. -/
theorem foldl_apply (a : Arguments) (items : List Item) : items.foldl Item.apply a =
    { command := (lastOf Item.command? items).or a.command
      windowsService := a.windowsService || items.contains .windowsService
      configPath := (lastOf Item.config? items).or a.configPath
      serverOverride := (lastOf Item.server? items).or a.serverOverride
      endpointOverride := (lastOf Item.endpoint? items).or a.endpointOverride
      replacePendingPairing := a.replacePendingPairing || items.contains .replacePendingPairing
      outputMode := (lastOf Item.mode? items).getD a.outputMode
      outputModeSelected := a.outputModeSelected || (lastOf Item.mode? items).isSome
      doctorDelivery := a.doctorDelivery || items.contains .delivery } := by
  induction items generalizing a with
  | nil => simp
  | cons item items ih =>
    rw [List.foldl_cons, ih]
    cases item <;> simp [Item.apply, Item.command?, Item.config?, Item.server?, Item.endpoint?, Item.mode?]

theorem foldl_new (configPath : Option PathBuf) (items : List Item) :
    items.foldl Item.apply (Arguments.new configPath) = meaning configPath items := by
  rw [foldl_apply]
  simp [Arguments.new, meaning]

theorem validateWindowsServiceInvocation_eq_ok {windows requested : Bool} {c : ClientCommand} {u : Unit} :
    validateWindowsServiceInvocation windows requested c = .ok u ↔ (requested = true → windows = true ∧ c = .run) := by
  cases requested with
  | false => simp [validateWindowsServiceInvocation]
  | true =>
    cases windows with
    | false => simp [validateWindowsServiceInvocation]
    | true => simp [validateWindowsServiceInvocation, check_eq_ok]

theorem getD_run_eq {selected : Option ClientCommand} {c : ClientCommand} (hc : c ≠ .run) :
    selected.getD .run = c ↔ selected = some c := by
  cases selected with
  | none => simp [Ne.symm hc]
  | some selected => simp

theorem finish_eq_ok {windows : Bool} {configPath : Option PathBuf} {b : Arguments} {command : ClientCommand} :
    (meaning configPath items).finish windows = .ok (b, command) ↔
      Agree windows items ∧ b = meaning configPath items ∧ command = (lastOf Item.command? items).getD .run := by
  have hconditions : (∃ u, check ((meaning configPath items).doctorDelivery = false ∨
        (lastOf Item.command? items).getD .run = .doctor)
          (.message "--delivery may be used only with doctor") = .ok u) ∧
      (∃ u, validateWindowsServiceInvocation windows (meaning configPath items).windowsService
        ((lastOf Item.command? items).getD .run) = .ok u) ∧
      (∃ u, check ((meaning configPath items).replacePendingPairing = false ∨
        (lastOf Item.command? items).getD .run = .pair) (.message "replacement requires pair") = .ok u) ↔
      Agree windows items := by
    simp only [check_eq_ok, validateWindowsServiceInvocation_eq_ok, exists_const, meaning, List.contains_eq_mem,
      decide_eq_false_iff_not, decide_eq_true_eq, getD_run_eq (show ClientCommand.doctor ≠ .run by decide),
      getD_run_eq (show ClientCommand.pair ≠ .run by decide), ← imp_iff_not_or]
    exact ⟨fun ⟨h₁, h₂, h₃⟩ => ⟨h₁, h₂, h₃⟩, fun h => ⟨h.delivery, h.service, h.replacement⟩⟩
  rw [← hconditions]
  unfold Arguments.finish
  simp only [Except.bind_eq_ok]
  constructor
  · rintro ⟨u, h₁, v, h₂, w, h₃, heq⟩
    cases heq
    exact ⟨⟨⟨u, h₁⟩, ⟨v, h₂⟩, ⟨w, h₃⟩⟩, rfl, rfl⟩
  · rintro ⟨⟨⟨u, h₁⟩, ⟨v, h₂⟩, ⟨w, h₃⟩⟩, rfl, rfl⟩
    exact ⟨u, h₁, v, h₂, w, h₃, rfl⟩

theorem items_of_loadFromIter {windows : Bool} {configPath : Option PathBuf} {args : List String}
    {command : ClientCommand} (h : loadFromIter windows configPath args = .ok (.arguments a command)) :
    ∃ items, args = items.flatMap Item.render ∧ Legal items ∧ Agree windows items ∧ a = meaning configPath items ∧
      command = (lastOf Item.command? items).getD .run := by
  obtain ⟨p, hp, hload⟩ := Except.bind_eq_ok.mp h
  obtain ⟨items, hreads, hcases⟩ := parse_eq_ok args.length (Nat.le_refl _) hp
  rcases hcases with ⟨hargs, rfl⟩ | ⟨arg, rest, -, ⟨rfl, -⟩ | ⟨rfl, -⟩⟩
  · rw [foldl_new] at hload
    obtain ⟨⟨b, command'⟩, hfinish, hsome⟩ := Except.bind_eq_ok.mp hload
    cases hsome
    obtain ⟨hagree, hmeaning, hcommand⟩ := finish_eq_ok.mp hfinish
    exact ⟨items, hargs, (readable_new_iff configPath).mp hreads, hagree, hmeaning, hcommand⟩
  · cases hload
  · cases hload

/-- **The version is printed as soon as it is asked for**, whatever follows and whether or not what came before goes
together; and so is the help, but not in the Windows service. -/
theorem load_from_iter_prints_iff (windows : Bool) (configPath : Option PathBuf) (args : List String) :
    (loadFromIter windows configPath args = .ok .version ↔
      ∃ items arg rest, args = items.flatMap Item.render ++ arg :: rest ∧ Legal items ∧
        (arg = "-V" ∨ arg = "--version")) ∧
    (loadFromIter windows configPath args = .ok .help ↔
      ∃ items arg rest, args = items.flatMap Item.render ++ arg :: rest ∧ Legal items ∧
        (arg = "-h" ∨ arg = "--help") ∧ .windowsService ∉ items) := by
  have hservice : ∀ items : List Item, (items.foldl Item.apply (Arguments.new configPath)).windowsService = false ↔
      .windowsService ∉ items := by
    intro items
    rw [foldl_new]
    simp [meaning]
  have hread : ∀ l, loadFromIter windows configPath args = .ok l → (∀ a command, l ≠ .arguments a command) →
      ∃ items arg rest, args = items.flatMap Item.render ++ arg :: rest ∧ Legal items ∧
        ((l = .version ∧ (arg = "-V" ∨ arg = "--version")) ∨
          (l = .help ∧ (arg = "-h" ∨ arg = "--help") ∧ .windowsService ∉ items)) := by
    intro l h hl
    obtain ⟨p, hp, hload⟩ := Except.bind_eq_ok.mp h
    obtain ⟨items, hreads, hcases⟩ := parse_eq_ok args.length (Nat.le_refl _) hp
    have hlegal := (readable_new_iff configPath).mp hreads
    rcases hcases with ⟨-, rfl⟩ | ⟨arg, rest, hargs, ⟨rfl, harg⟩ | ⟨rfl, harg, hnot⟩⟩
    · obtain ⟨⟨b, command⟩, -, hsome⟩ := Except.bind_eq_ok.mp hload
      cases hsome
      exact absurd rfl (hl b command)
    · cases hload
      exact ⟨items, arg, rest, hargs, hlegal, Or.inl ⟨rfl, harg⟩⟩
    · cases hload
      exact ⟨items, arg, rest, hargs, hlegal, Or.inr ⟨rfl, harg, (hservice items).mp hnot⟩⟩
  have hwritten : ∀ items arg rest, Legal items → args = items.flatMap Item.render ++ arg :: rest →
      (Arguments.new configPath).parse 0 args =
        (items.foldl Item.apply (Arguments.new configPath)).parse (0 + items.length) (arg :: rest) := by
    intro items arg rest hlegal hargs
    rw [hargs]
    exact parse_items ((readable_new_iff configPath).mpr hlegal)
  refine ⟨⟨fun h => ?_, ?_⟩, ⟨fun h => ?_, ?_⟩⟩
  · obtain ⟨items, arg, rest, hargs, hlegal, ⟨-, harg⟩ | ⟨hl, -⟩⟩ := hread _ h (fun _ _ hl => by cases hl)
    · exact ⟨items, arg, rest, hargs, hlegal, harg⟩
    · cases hl
  · rintro ⟨items, arg, rest, hargs, hlegal, harg⟩
    unfold loadFromIter
    rw [hwritten items arg rest hlegal hargs]
    rcases harg with rfl | rfl <;> simp [Arguments.parse] <;> rfl
  · obtain ⟨items, arg, rest, hargs, hlegal, ⟨hl, -⟩ | ⟨-, harg⟩⟩ := hread _ h (fun _ _ hl => by cases hl)
    · cases hl
    · exact ⟨items, arg, rest, hargs, hlegal, harg⟩
  · rintro ⟨items, arg, rest, hargs, hlegal, harg, hnot⟩
    have hoff := (hservice items).mpr hnot
    unfold loadFromIter
    rw [hwritten items arg rest hlegal hargs]
    rcases harg with rfl | rfl <;> simp [Arguments.parse, check, hoff] <;> rfl

/-- `windows_service_requested`, of all arguments with the program's name: whether the Windows service is dispatched. -/
def windowsServiceRequested (arguments : List String) : Bool := arguments[1]? = some "--windows-service"

/-- **The service is dispatched when the command line asks for it**: the client looks at one argument for that, before
it reads them all, and reads the same. -/
theorem dispatched_as_loaded {windows : Bool} {configPath : Option PathBuf} {program : String} {args : List String}
    {command : ClientCommand} (h : loadFromIter windows configPath args = .ok (.arguments a command)) :
    a.windowsService = windowsServiceRequested (program :: args) := by
  obtain ⟨items, rfl, hlegal, -, rfl, -⟩ := items_of_loadFromIter h
  unfold windowsServiceRequested meaning
  cases items with
  | nil => rfl
  | cons item items =>
    have hrest : items.contains .windowsService = false := by simpa using hlegal.service
    rw [List.contains_cons, hrest, Bool.or_false]
    cases item with
    | command c => cases c <;> rfl
    | output mode => cases mode <;> rfl
    | windowsService | config | server | endpoint | replacePendingPairing | json | delivery => rfl

theorem dispatched_as_loaded_service :
    (meaning none [.windowsService, .config "--windows-service"]).windowsService =
      windowsServiceRequested ["xsoc", "--windows-service", "--config", "--windows-service"] :=
  dispatched_as_loaded (show loadFromIter true none ["--windows-service", "--config", "--windows-service"] =
    .ok (.arguments (meaning none [.windowsService, .config "--windows-service"]) .run) by rfl)

end Xsoc
