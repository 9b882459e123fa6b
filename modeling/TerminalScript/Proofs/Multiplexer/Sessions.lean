import TerminalScript.Proofs.Multiplexer.Serving
import Mathlib.Data.List.Induction

/-!
The session of a backend over all that is asked of it. There is one exactly if the last launch
succeeded and nothing was destroyed since, and only that session is used.
-/

namespace TerminalScript.Tmux

variable (host : Host) (options : BackendOptions)

def after (requests : List Request) : State :=
  (backend host options).serveAll {} requests

/-- The last launch made the session, and nothing was destroyed since. -/
def Launched (requests : List Request) (session : String) : Prop :=
  ∃ earlier command args directory later,
    requests = earlier ++ .launch command args directory :: later ∧
      (backend host options).answer (after host options earlier) (.launch command args directory) =
        .ok () ∧
      session = launchName host options (earlier.countP Request.isLaunch) ∧
      ∀ request ∈ later, request.isLaunch = false ∧ request ≠ .destroy

variable {host options}
variable {session : String}

theorem concat_eq_append_cons {α : Type} {list front rest : List α} {last head : α} :
    list ++ [last] = front ++ head :: rest ↔
      (rest = [] ∧ list = front ∧ last = head) ∨
        ∃ middle, rest = middle ++ [last] ∧ list = front ++ head :: middle := by
  rcases List.eq_nil_or_concat rest with rfl | ⟨middle, own, concat⟩
  · simp
  · obtain rfl : rest = middle ++ [own] := concat.trans (List.concat_eq_append ..)
    have moved : front ++ head :: (middle ++ [own]) = (front ++ head :: middle) ++ [own] := by simp
    rw [moved]
    constructor
    · intro same
      obtain ⟨fronts, lasts⟩ := List.append_inj' same rfl
      exact .inr ⟨middle, by rw [lasts], fronts⟩
    · rintro (⟨impossible, _⟩ | ⟨own_middle, same, rfl⟩)
      · simp at impossible
      · obtain ⟨rfl, lasts⟩ := List.append_inj' same rfl
        rw [lasts]

variable {requests : List Request} {request : Request}

theorem after_concat (requests : List Request) (request : Request) :
    after host options (requests ++ [request]) =
      (backend host options).serve (after host options requests) request :=
  (backend host options).serveAll_concat {} requests request

theorem serves_after (host : Host) (options : BackendOptions) (requests : List Request)
    (request : Request) :
    Serves host options (after host options requests) request
      ((backend host options).answer (after host options requests) request)
      (after host options (requests ++ [request])) := by
  rw [after_concat]
  exact serves_perform request _

theorem launched_after (host : Host) (options : BackendOptions) (requests : List Request) :
    (after host options requests).launched = requests.countP Request.isLaunch := by
  induction requests using List.reverseRecOn with
  | nil => rfl
  | append_singleton requests request ih =>
      rw [(serves_after host options requests request).launched_eq, ih, List.countP_append,
        List.countP_singleton]

theorem launched_concat : Launched host options (requests ++ [request]) session ↔
    (request.isLaunch = true ∧
      (backend host options).answer (after host options requests) request = .ok () ∧
      session = launchName host options (requests.countP Request.isLaunch)) ∨
    (request.isLaunch = false ∧ request ≠ .destroy ∧ Launched host options requests session) := by
  constructor
  · rintro ⟨earlier, command, args, directory, later, split, succeeded, made, quiet⟩
    rcases concat_eq_append_cons.mp split with ⟨rfl, rfl, rfl⟩ | ⟨middle, rfl, same⟩
    · exact .inl ⟨rfl, succeeded, made⟩
    · obtain ⟨quiet, last⟩ := List.forall_mem_append.mp quiet
      obtain ⟨unlaunched, kept⟩ := last request (List.mem_singleton_self request)
      exact .inr ⟨unlaunched, kept, earlier, command, args, directory, middle, same, succeeded,
        made, quiet⟩
  · rintro (⟨launch, succeeded, made⟩ |
      ⟨unlaunched, kept, earlier, command, args, directory, later, rfl, succeeded, made, quiet⟩)
    · cases request with
      | launch command args directory =>
          exact ⟨requests, command, args, directory, [], rfl, succeeded, made,
            List.forall_mem_nil _⟩
      | _ => cases launch
    · refine ⟨earlier, command, args, directory, later ++ [request], by simp, succeeded, made, ?_⟩
      exact List.forall_mem_append.mpr ⟨quiet, List.forall_mem_singleton.mpr ⟨unlaunched, kept⟩⟩

theorem session_after (requests : List Request) :
    (after host options requests).session = some session ↔
      Launched host options requests session := by
  induction requests using List.reverseRecOn with
  | nil =>
      have none : ¬Launched host options [] session := by
        rintro ⟨earlier, _, _, _, later, split, _⟩
        simp at split
      exact iff_of_false (by simp [after, Backend.serveAll]) none
  | append_singleton requests request ih =>
      rw [(serves_after host options requests request).session_iff, launched_concat, ih,
        launched_after]

/-- There is a session exactly if the last launch made it and nothing was destroyed since. Whatever is
asked next, all that is called besides opening a session is aimed at that session, or at the one
that is being launched. Without a session, what is about the process fails and destroying succeeds,
and neither calls anything. -/
theorem session_discipline (host : Host) (options : BackendOptions) (requests : List Request) :
    let state := after host options requests
    let upcoming := launchName host options (requests.countP Request.isLaunch)
    (∀ session, state.session = some session ↔ Launched host options requests session) ∧
    (∀ request, ∃ issued,
      (after host options (requests ++ [request])).calls = state.calls ++ issued ∧
      ∀ call ∈ issued,
        (request.isLaunch = true ∧ mark? call = some (.opened upcoming)) ∨
        ∃ session, target? call = some session ∧
          if request.isLaunch then session = upcoming else state.session = some session) ∧
    (state.session = none →
      (∀ request, request.usesProcess = true →
        (∃ lifecycle, (backend host options).answer state request =
            .error (.processLifecycle lifecycle) ∧ lifecycle.message = "tmux session not started") ∧
          (backend host options).serve state request = state) ∧
      (backend host options).answer state .destroy = .ok () ∧
        (backend host options).serve state .destroy = state) := by
  intro state upcoming
  refine ⟨fun session => session_after requests, ?_, fun apart => ⟨?_, ?_⟩⟩
  · intro request
    have aimed := (serves_after host options requests request).calls_eq
    rw [launched_after] at aimed
    exact aimed
  · intro request uses
    have drives : Drives ((backend host options).perform request) := perform_drives uses
    have missing := drives.missing state apart
    refine ⟨⟨.notStarted "tmux session", congrArg Prod.fst missing, by decide⟩, ?_⟩
    exact congrArg Prod.snd missing
  · have idle : ran (destroy host).run state = (.ok (), state) := ran_destroy_of_none apart
    exact ⟨congrArg Prod.fst idle, congrArg Prod.snd idle⟩

def calmHost : Host where
  reply := Script.reply [("display-message", [{ stdout := "4242\n".toUTF8.toList }])]
  clock _ := 0
  draw _ := 0
  probe _ := .delivered

theorem session_discipline_of_calm :
    Launched calmHost {} [.launch "app" [] none] (launchName calmHost {} 0) ∧
      (backend calmHost {}).serve (after calmHost {} []) (.sendText "ls") = after calmHost {} [] := by
  have launched := session_discipline calmHost {} [.launch "app" [] none]
  have unlaunched := session_discipline calmHost {} []
  exact ⟨(launched.1 _).mp (by decide +kernel), ((unlaunched.2.2 rfl).1 (.sendText "ls") rfl).2⟩

end TerminalScript.Tmux
