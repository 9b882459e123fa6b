import TerminalScript.Proofs.Multiplexer.Sessions

/-!
Scripted input among the arguments of the multiplexer's commands. A command reads its arguments as
options up to the first that is none, or up to `--`. Text is passed after `--` and arrives whatever
it begins with. The token of a key is passed without it, so a token that looks like an option is
taken for one and does not arrive.
-/

namespace TerminalScript

inductive Entry
  | key (token : String)
  | text (content : String)
  deriving DecidableEq

def Entry.string : Entry → String
  | key token => token
  | text content => content

def Request.entries : Request → List Entry
  | .sendKeys keys => keys.map .key
  | .sendText text => [.text text]
  | .sendLine text => [.text text, .key "Enter"]
  | .paste text => [.text text]
  | _ => []

def Request.isInput : Request → Bool
  | .sendKeys _ | .sendText _ | .sendLine _ | .paste _ => true
  | _ => false

theorem Request.usesProcess_of_isInput {request : Request} (isInput : request.isInput = true) :
    request.usesProcess = true := by
  cases request with
  | sendKeys | sendText | sendLine | paste => rfl
  | _ => cases isInput

namespace Tmux

def isOption (argument : String) : Bool :=
  argument.toList.head? = some '-' && argument ≠ "-"

/-- The arguments of a command that stand for themselves: those after `--`, or those from the first
that is neither an option nor the value of one. -/
def operands : List String → List String
  | [] => []
  | [last] => if isOption last then [] else [last]
  | first :: second :: rest =>
      if first = "--" then second :: rest
      else if !isOption first then first :: second :: rest
      else if first ∈ valuedOptions then operands rest
      else operands (second :: rest)

def arriving : Entry → List String
  | .key token => if isOption token then [] else [token]
  | .text content => [content]

structure Passes (entry : Entry) (call : List String) : Prop where
  last : call.getLast? = some entry.string
  operands : operands call.tail = arriving entry
  terminated : ∀ content, entry = .text content → ∃ front, call = front ++ ["--", content]

def Bare (session : String) (call : List String) : Prop :=
  ∀ argument ∈ call.tail, isOption argument = true ∨ argument = session

/-- Commands that pass entries and nothing else: what stands for itself in them is what arrives of
the entries, in their order. -/
structure Carried (session : String) (passed : List Entry) (issued : List (List String)) :
    Prop where
  operands : issued.flatMap (fun call => operands call.tail) = passed.flatMap arriving
  entries : ∀ entry ∈ passed, ∃ call ∈ issued, Passes entry call
  calls : ∀ call ∈ issued, (∃ entry ∈ passed, Passes entry call) ∨ Bare session call

namespace Carried

variable {session : String} {passed passed' : List Entry} {issued issued' : List (List String)}

theorem nil : Carried session [] [] where
  operands := rfl
  entries _ := nofun
  calls _ := nofun

theorem append (first : Carried session passed issued) (second : Carried session passed' issued') :
    Carried session (passed ++ passed') (issued ++ issued') where
  operands := by
    rw [List.flatMap_append, List.flatMap_append, first.operands, second.operands]
  entries entry member := by
    rcases List.mem_append.mp member with early | late
    · obtain ⟨call, inside, passes⟩ := first.entries entry early
      exact ⟨call, List.mem_append_left _ inside, passes⟩
    · obtain ⟨call, inside, passes⟩ := second.entries entry late
      exact ⟨call, List.mem_append_right _ inside, passes⟩
  calls call member := by
    rcases List.mem_append.mp member with early | late
    · exact (first.calls call early).imp_left fun ⟨entry, inside, passes⟩ =>
        ⟨entry, List.mem_append_left _ inside, passes⟩
    · exact (second.calls call late).imp_left fun ⟨entry, inside, passes⟩ =>
        ⟨entry, List.mem_append_right _ inside, passes⟩

theorem single {entry : Entry} {call : List String} (passes : Passes entry call) :
    Carried session [entry] [call] where
  operands := by simpa using passes.operands
  entries _ member := ⟨call, by simp, List.mem_singleton.mp member ▸ passes⟩
  calls _ member := .inl ⟨entry, by simp, List.mem_singleton.mp member ▸ passes⟩

theorem bare {call : List String} (bare : Bare session call)
    (empty : Tmux.operands call.tail = []) : Carried session [] [call] where
  operands := by simpa using empty
  entries _ := nofun
  calls _ member := .inr (List.mem_singleton.mp member ▸ bare)

end Carried

variable {host : Host} {session : String} {α β : Type} {entries : List Entry}

theorem passes_key (session token : String) :
    Passes (.key token) ["send-keys", "-t", session, token] where
  last := rfl
  operands := by
    have value : isOption "-t" = true ∧ "-t" ∈ valuedOptions := by decide
    simp [operands, value, arriving]
  terminated _ := nofun

theorem passes_typed (session content : String) :
    Passes (.text content) ["send-keys", "-t", session, "-l", "--", content] where
  last := rfl
  operands := by
    have value : isOption "-t" = true ∧ "-t" ∈ valuedOptions := by decide
    have alone : isOption "-l" = true ∧ "-l" ∉ valuedOptions := by decide
    simp [operands, value, alone, arriving]
  terminated _ same := ⟨["send-keys", "-t", session, "-l"], by cases same; rfl⟩

theorem passes_buffered (session content : String) :
    Passes (.text content) ["set-buffer", "-b", session, "--", content] where
  last := rfl
  operands := by
    have value : isOption "-b" = true ∧ "-b" ∈ valuedOptions := by decide
    simp [operands, value, arriving]
  terminated _ same := ⟨["set-buffer", "-b", session], by cases same; rfl⟩

theorem argumentFault_of_covered {args strings : List String}
    (covered : ∀ arg ∈ args, argumentFault [arg] = none ∨ arg ∈ strings)
    (usable : argumentFault strings = none) : argumentFault args = none := by
  rw [argumentFault_eq_none] at usable ⊢
  constructor <;> intro arg member <;> rcases covered arg member with own | among
  · exact (argumentFault_eq_none.mp own).1 arg (List.mem_singleton_self arg)
  · exact usable.1 arg among
  · exact (argumentFault_eq_none.mp own).2 arg (List.mem_singleton_self arg)
  · exact usable.2 arg among

structure Willing (host : Host) (session : String) (entries : List Entry) : Prop where
  succeeds : ∀ calls args, ∃ output, outcomeOf args (host.reply calls args) = .ok output
  usable : argumentFault (session :: entries.map Entry.string) = none

theorem Willing.mono {entries part : List Entry} (willing : Willing host session entries)
    (among : part ⊆ entries) : Willing host session part where
  succeeds := willing.succeeds
  usable := argumentFault_of_covered
    (fun _ member => .inr (List.cons_subset_cons _ (List.map_subset _ among) member))
    willing.usable

/-- An operation on a session that passes entries: all of them if it succeeds, as it does unless a
call fails, and otherwise those before that call. -/
def Conveys (host : Host) (session : String) (entries : List Entry)
    (operation : Operation State α) : Prop :=
  ∀ state, state.session = some session →
    let ended := ran operation.run state
    ended.2.session = some session ∧
      (Willing host session entries → ∃ value, ended.1 = .ok value) ∧
      ∃ issued passed, ended.2.calls = state.calls ++ issued ∧ Carried session passed issued ∧
        passed <+: entries ∧ ∀ value, ended.1 = .ok value → passed = entries

namespace Conveys

theorem pure (value : α) : Conveys host session [] (Pure.pure value : Operation State α) := by
  intro state active
  exact ⟨active, fun _ => ⟨value, rfl⟩, [], [], by simp, .nil, List.nil_prefix, fun _ _ => rfl⟩

theorem call {args : List String} (carried : Carried session entries [args])
    (covered : ∀ arg ∈ args,
      argumentFault [arg] = none ∨ arg ∈ session :: entries.map Entry.string) :
    Conveys host session entries (call host args) := by
  intro state active
  rcases usable : argumentFault args with - | fault
  · rw [ran_call usable]
    exact ⟨active, fun willing => willing.succeeds state.calls args, [args], entries, rfl, carried,
      List.prefix_refl _, fun _ _ => rfl⟩
  · rw [ran_call_of_fault usable]
    refine ⟨active, fun willing => ?_, [], [], by simp, .nil, List.nil_prefix, fun _ => nofun⟩
    rw [argumentFault_of_covered covered willing.usable] at usable
    cases usable

theorem bind {entries' : List Entry} {operation : Operation State α}
    {next : α → Operation State β} (first : Conveys host session entries operation)
    (later : ∀ value, Conveys host session entries' (next value)) :
    Conveys host session (entries ++ entries') (operation >>= next) := by
  intro state active
  obtain ⟨kept, succeeds, issued, passed, calls, carried, part, whole⟩ := first state active
  rcases answered : ran operation.run state with ⟨failure | value, middle⟩
  · rw [answered] at kept succeeds calls
    rw [ran_run_bind_error answered]
    refine ⟨kept, fun willing => ?_, issued, passed, calls, carried,
      part.trans (List.prefix_append _ _), fun _ => nofun⟩
    obtain ⟨_, impossible⟩ := succeeds (willing.mono (List.subset_append_left _ _))
    cases impossible
  · rw [answered] at kept calls whole
    rw [ran_run_bind_ok answered]
    obtain ⟨kept', succeeds', issued', passed', calls', carried', part', whole'⟩ :=
      later value middle kept
    obtain rfl := whole value rfl
    refine ⟨kept', fun willing => succeeds' (willing.mono (List.subset_append_right _ _)),
      issued ++ issued', passed ++ passed', ?_, carried.append carried',
      (List.prefix_append_right_inj _).mpr part', fun _ succeeded => ?_⟩
    · rw [calls', calls, List.append_assoc]
    · rw [whole' _ succeeded]

theorem active {next : String → Operation State α}
    (conveys : Conveys host session entries (next session)) :
    Conveys host session entries (Tmux.active >>= next) := by
  intro state here
  rw [ran_active, here]
  exact conveys state here

end Conveys

/-- The words of a command that are the same for every session and entry. -/
theorem argumentFault_word {word : String}
    (known : word ∈ ["send-keys", "set-buffer", "paste-buffer", "-t", "-l", "-b", "-d", "--"]) :
    argumentFault [word] = none := by
  revert word
  decide

theorem sendText_conveys (text : String) :
    Conveys host session [.text text] (sendText host text) := by
  have covered : ∀ arg ∈ ["send-keys", "-t", session, "-l", "--", text],
      argumentFault [arg] = none ∨ arg ∈ [session, text] := by
    simp [argumentFault_word]
  exact .active ((Conveys.call (.single (passes_typed session text)) covered).bind fun _ => .pure ())

theorem sendKeys_conveys (keys : List String) :
    Conveys host session (keys.map .key) (sendKeys host keys) := by
  refine .active ?_
  induction keys with
  | nil => exact .pure ()
  | cons key rest ih =>
      have covered : ∀ arg ∈ ["send-keys", "-t", session, key],
          argumentFault [arg] = none ∨ arg ∈ [session, key] := by
        simp [argumentFault_word]
      have first : Conveys host session [.key key] (do
          let _ ← call host ["send-keys", "-t", session, key] : Operation State Unit) :=
        (Conveys.call (.single (passes_key session key)) covered).bind fun _ => .pure ()
      rw [List.forM_eq_forM, List.forM_cons]
      exact first.bind fun _ => ih

theorem sendLine_conveys (text : String) :
    Conveys host session [.text text, .key "Enter"] (sendLine host text) :=
  (sendText_conveys text).bind fun _ => sendKeys_conveys ["Enter"]

theorem paste_conveys (text : String) : Conveys host session [.text text] (paste host text) := by
  have options : isOption "-d" = true ∧ isOption "-b" = true ∧ isOption "-t" = true := by decide
  have valued : "-d" ∉ valuedOptions ∧ "-b" ∈ valuedOptions ∧ "-t" ∈ valuedOptions := by decide
  have bare : Bare session ["paste-buffer", "-d", "-b", session, "-t", session] := by
    simp [Bare, options]
  have empty : operands ["-d", "-b", session, "-t", session] = [] := by
    simp [operands, options, valued]
  have covered : ∀ arg ∈ ["set-buffer", "-b", session, "--", text],
      argumentFault [arg] = none ∨ arg ∈ [session, text] := by
    simp [argumentFault_word]
  have covered' : ∀ arg ∈ ["paste-buffer", "-d", "-b", session, "-t", session],
      argumentFault [arg] = none ∨ arg ∈ [session] := by
    simp [argumentFault_word]
  refine .active ((Conveys.call (.single (passes_buffered session text)) covered).bind fun _ => ?_)
  exact (Conveys.call (.bare bare empty) covered').bind fun _ => .pure ()

theorem perform_conveys {options : BackendOptions} {request : Request}
    (isInput : request.isInput = true) :
    Conveys host session request.entries ((backend host options).perform request) := by
  cases request with
  | sendKeys keys => exact sendKeys_conveys keys
  | sendText text => exact sendText_conveys text
  | sendLine text => exact sendLine_conveys text
  | paste text => exact paste_conveys text
  | _ => cases isInput

/-- Input needs a session. What of it stands for itself among the arguments is every text, since it
comes after `--`, and every key whose token does not look like an option, in the order asked for.
A call that fails leaves out what comes after it, and if none fails, all is passed. -/
theorem input_passed (host : Host) (options : BackendOptions) (state : State) (request : Request)
    (isInput : request.isInput = true) :
    let answer := (backend host options).answer state request
    let served := (backend host options).serve state request
    (state.session = none → answer = .error notStarted ∧ served = state) ∧
    ∀ session, state.session = some session →
      (Willing host session request.entries → answer = .ok ()) ∧
      ∃ issued passed, served.calls = state.calls ++ issued ∧ Carried session passed issued ∧
        passed <+: request.entries ∧ (answer = .ok () → passed = request.entries) := by
  intro answer served
  constructor
  · intro apart
    have drives : Drives ((backend host options).perform request) :=
      perform_drives (Request.usesProcess_of_isInput isInput)
    have missing := drives.missing state apart
    exact ⟨congrArg Prod.fst missing, congrArg Prod.snd missing⟩
  · intro session active
    have conveys : Conveys host session request.entries
        ((backend host options).perform request) := perform_conveys isInput
    obtain ⟨_, succeeds, issued, passed, calls, carried, part, whole⟩ := conveys state active
    refine ⟨fun willing => ?_, issued, passed, calls, carried, part, whole ()⟩
    obtain ⟨_, answered⟩ := succeeds willing
    exact answered

theorem outcomeOf_of_exit (args : List String) {reply : Reply}
    (intime : reply.duration ≤ callLimit * 1000) (well : reply.exit = 0) :
    outcomeOf args reply = .ok (Text.decode reply.stdout) := by
  unfold outcomeOf
  rw [if_neg (Nat.not_lt.mpr intime), if_neg (not_not_intro well)]

theorem calmHost_succeeds (calls : List (List String)) (args : List String) :
    ∃ output, outcomeOf args (calmHost.reply calls args) = .ok output := by
  rw [calmHost]
  dsimp only
  rw [Script.reply, List.lookup_cons]
  split
  · generalize List.countP _ calls = earlier
    cases earlier with
    | zero => exact ⟨_, outcomeOf_of_exit args (Nat.zero_le _) rfl⟩
    | succ earlier => exact ⟨_, outcomeOf_of_exit args (Nat.zero_le _) rfl⟩
  · exact ⟨_, outcomeOf_of_exit args (Nat.zero_le _) rfl⟩

/-- A line that begins with a dash is typed as it stands, and so is the key after it. -/
theorem input_passed_of_line :
    let session := launchName calmHost {} 0
    let opened := after calmHost {} [.launch "app" [] none]
    let line := Request.sendLine "-n flag"
    line.isInput = true ∧ opened.session = some session ∧
    Willing calmHost session line.entries ∧
    ∃ issued passed,
      ((backend calmHost {}).serve opened line).calls = opened.calls ++ issued ∧
      Carried session passed issued ∧ passed = [.text "-n flag", .key "Enter"] ∧
      issued.flatMap (fun call => operands call.tail) = ["-n flag", "Enter"] := by
  intro session opened line
  have active : opened.session = some session := by decide +kernel
  have willing : Willing calmHost session line.entries :=
    ⟨calmHost_succeeds, by decide +kernel⟩
  obtain ⟨succeeds, issued, passed, calls, carried, _, whole⟩ :=
    (input_passed calmHost {} opened line rfl).2 session active
  have all : passed = [.text "-n flag", .key "Enter"] := whole (succeeds willing)
  refine ⟨rfl, active, willing, issued, passed, calls, carried, all, ?_⟩
  rw [carried.operands, all]
  decide

/-- The token `-R` is passed as a key and taken for the option that resets the terminal. -/
theorem key_taken_for_option :
    let session := launchName calmHost {} 0
    let opened := after calmHost {} [.launch "app" [] none]
    let call := ["send-keys", "-t", session, "-R"]
    opened.session = some session ∧
    ((backend calmHost {}).answer opened (.sendKeys ["-R"])).isOk = true ∧
    ((backend calmHost {}).serve opened (.sendKeys ["-R"])).calls = opened.calls ++ [call] ∧
    "--" ∉ call ∧ isOption "-R" = true ∧ operands call.tail = [] := by
  decide +kernel

end Tmux

end TerminalScript
