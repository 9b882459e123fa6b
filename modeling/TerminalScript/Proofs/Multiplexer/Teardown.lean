import TerminalScript.Proofs.Multiplexer.Names
import TerminalScript.Proofs.Multiplexer.Sessions

/-!
What becomes of the sessions that a backend opens. A session is closed once, after it was opened:
when its launch fails, when it is destroyed or when the backend is given up. But a launch that finds
a session takes its place, and then nothing closes that session any more.
-/

namespace TerminalScript.Tmux

variable {host : Host} {options : BackendOptions} {requests : List Request} {request : Request}
variable {session : String}

theorem launchName_injective {number number' : Nat}
    (same : launchName host options number = launchName host options number') :
    number = number' :=
  launch_of_sessionName same

def Replaced (host : Host) (options : BackendOptions) (requests : List Request)
    (session : String) : Prop :=
  ∃ earlier command args directory later,
    requests = earlier ++ .launch command args directory :: later ∧
      (after host options earlier).session = some session

theorem replaced_concat : Replaced host options (requests ++ [request]) session ↔
    Replaced host options requests session ∨
      request.isLaunch = true ∧ (after host options requests).session = some session := by
  constructor
  · rintro ⟨earlier, command, args, directory, later, split, active⟩
    rcases concat_eq_append_cons.mp split with ⟨_, rfl, rfl⟩ | ⟨middle, _, same⟩
    · exact .inr ⟨rfl, active⟩
    · exact .inl ⟨earlier, command, args, directory, middle, same, active⟩
  · rintro (⟨earlier, command, args, directory, later, rfl, active⟩ | ⟨launch, active⟩)
    · exact ⟨earlier, command, args, directory, later ++ [request], by simp, active⟩
    · cases request with
      | launch command args directory => exact ⟨requests, command, args, directory, [], rfl, active⟩
      | _ => cases launch

theorem replaced_concat_of_not_launch (unlaunched : request.isLaunch = false) :
    Replaced host options (requests ++ [request]) session ↔
      Replaced host options requests session := by
  rw [replaced_concat, unlaunched]
  simp

/-- A session that is not closed: it is the one there is, or a later one took its place. -/
def Open (host : Host) (options : BackendOptions) (requests : List Request)
    (session : String) : Prop :=
  (after host options requests).session = some session ∨ Replaced host options requests session

theorem open_launch (launch : request.isLaunch = true) :
    Open host options (requests ++ [request]) session ↔
      ((backend host options).answer (after host options requests) request = .ok () ∧
        session = launchName host options (requests.countP Request.isLaunch)) ∨
      Open host options requests session := by
  rw [Open, (serves_after host options requests request).session_iff, replaced_concat,
    launched_after, Open]
  simp only [launch, true_and, Bool.true_eq_false, false_and, or_false]
  tauto

theorem open_concat (unlaunched : request.isLaunch = false) :
    Open host options (requests ++ [request]) session ↔
      (request ≠ .destroy ∧ (after host options requests).session = some session) ∨
      Replaced host options requests session := by
  rw [Open, (serves_after host options requests request).session_iff,
    replaced_concat_of_not_launch unlaunched]
  simp [unlaunched]

structure Accounted (host : Host) (options : BackendOptions) (requests : List Request) : Prop where
  made : ∀ session, story session (after host options requests).calls ≠ [] →
    ∃ number < requests.countP Request.isLaunch, session = launchName host options number
  opened : ∀ session, Open host options requests session →
    story session (after host options requests).calls = [.opened session]
  ended : ∀ session, ¬Open host options requests session →
    story session (after host options requests).calls ∈
      [[], [.closed session], [.opened session, .closed session]]
  closable : ∀ session, (after host options requests).session = some session →
    argumentFault (closing session) = none ∧ ¬Replaced host options requests session

theorem story_concat
    (other : request.isLaunch = true →
      session ≠ launchName host options (requests.countP Request.isLaunch)) :
    story session (after host options (requests ++ [request])).calls =
      story session (after host options requests).calls ++
        if request = .destroy ∧ (after host options requests).session = some session then
          story session (closingCalls session) else [] := by
  rw [← launched_after host options] at other
  exact (serves_after host options requests request).story_eq_of_ne other

theorem story_launch_other (launch : request.isLaunch = true)
    (other : session ≠ launchName host options (requests.countP Request.isLaunch)) :
    story session (after host options (requests ++ [request])).calls =
      story session (after host options requests).calls := by
  have lasting : request ≠ .destroy := by
    rintro rfl
    cases launch
  rw [story_concat fun _ => other, if_neg fun ending => lasting ending.1, List.append_nil]

namespace Accounted

theorem initial : Accounted host options [] := by
  have empty : ∀ session, story session (after host options []).calls = [] := fun _ => rfl
  have unopened : ∀ session, ¬Open host options [] session := by
    rintro session (active | ⟨earlier, _, _, _, later, split, _⟩)
    · cases active
    · simp at split
  refine ⟨?_, ?_, ?_, ?_⟩
  · exact fun session nonempty => absurd (empty session) nonempty
  · exact fun session isOpen => absurd isOpen (unopened session)
  · exact fun session _ => by simp [empty]
  · exact fun session active => absurd (.inl active) (unopened session)

variable (accounted : Accounted host options requests)
include accounted

theorem open_made (isOpen : Open host options requests session) :
    ∃ number < requests.countP Request.isLaunch, session = launchName host options number :=
  accounted.made session (by rw [accounted.opened session isOpen]; simp)

/-- The name of the next session is new. -/
theorem story_upcoming :
    story (launchName host options (requests.countP Request.isLaunch))
      (after host options requests).calls = [] := by
  by_contra nonempty
  obtain ⟨number, earlier, same⟩ := accounted.made _ nonempty
  have := launchName_injective same
  omega

theorem not_open_upcoming :
    ¬Open host options requests
      (launchName host options (requests.countP Request.isLaunch)) := by
  intro isOpen
  have nonempty := accounted.opened _ isOpen
  rw [accounted.story_upcoming] at nonempty
  cases nonempty

/-- What a launch does with its own session: the session stays open if the launch succeeds. -/
theorem story_own (launch : request.isLaunch = true)
    (own : session = launchName host options (requests.countP Request.isLaunch)) :
    let succeeded :=
      (backend host options).answer (after host options requests) request = .ok ()
    let marks := story session (after host options (requests ++ [request])).calls
    (succeeded ∧ argumentFault (closing session) = none ∧ marks = [.opened session]) ∨
    (¬succeeded ∧ marks ∈ [[], [.closed session], [.opened session, .closed session]]) := by
  have new : story session (after host options requests).calls = [] :=
    own ▸ accounted.story_upcoming
  rw [← launched_after host options] at own
  rcases (serves_after host options requests request).story_launch launch own with
    ⟨succeeded, closable, marks⟩ | ⟨failed, marks, possible, same⟩
  · rw [new] at marks
    exact .inl ⟨succeeded, closable, marks⟩
  · rw [new] at same
    exact .inr ⟨failed, same ▸ possible⟩

/-- A launch adds the story of its own session to those of the others. -/
theorem concat_launch (launch : request.isLaunch = true) :
    Accounted host options (requests ++ [request]) := by
  let upcoming := launchName host options (requests.countP Request.isLaunch)
  have number : (requests ++ [request]).countP Request.isLaunch =
      requests.countP Request.isLaunch + 1 := by
    simp [List.countP_append, launch]
  refine ⟨?_, ?_, ?_, ?_⟩
  · intro session nonempty
    by_cases same : session = upcoming
    · exact ⟨_, by omega, same⟩
    · rw [story_launch_other launch same] at nonempty
      obtain ⟨earlier, before, named⟩ := accounted.made session nonempty
      exact ⟨earlier, by omega, named⟩
  · intro session isOpen
    rcases (open_launch launch).mp isOpen with ⟨succeeded, rfl⟩ | isOpen
    · rcases accounted.story_own launch rfl with ⟨_, _, marks⟩ | ⟨failed, _⟩
      · exact marks
      · exact absurd succeeded failed
    · have other : session ≠ upcoming := by
        rintro rfl
        exact accounted.not_open_upcoming isOpen
      rw [story_launch_other launch other, accounted.opened session isOpen]
  · intro session unopened
    rw [open_launch launch, not_or] at unopened
    by_cases same : session = upcoming
    · rcases accounted.story_own launch same with ⟨succeeded, _⟩ | ⟨_, possible⟩
      · exact absurd ⟨succeeded, same⟩ unopened.1
      · exact possible
    · rw [story_launch_other launch same]
      exact accounted.ended session unopened.2
  · intro session active
    have served := serves_after host options requests request
    rw [served.session_iff, launched_after] at active
    obtain ⟨_, succeeded, rfl⟩ | ⟨unlaunched, _⟩ := active
    · rcases accounted.story_own launch rfl with ⟨_, closable, _⟩ | ⟨failed, _⟩
      · refine ⟨closable, fun replaced => accounted.not_open_upcoming ?_⟩
        exact (replaced_concat.mp replaced).elim .inr fun found => .inl found.2
      · exact absurd succeeded failed
    · rw [launch] at unlaunched
      cases unlaunched

theorem concat_other (unlaunched : request.isLaunch = false) :
    Accounted host options (requests ++ [request]) := by
  have number : (requests ++ [request]).countP Request.isLaunch =
      requests.countP Request.isLaunch := by
    simp [List.countP_append, unlaunched]
  have stories : ∀ session, story session (after host options (requests ++ [request])).calls =
      story session (after host options requests).calls ++
        if request = .destroy ∧ (after host options requests).session = some session then
          story session (closingCalls session) else [] :=
    fun session => story_concat (by simp [unlaunched])
  refine ⟨?_, ?_, ?_, ?_⟩
  · intro session nonempty
    rw [number]
    rw [stories session] at nonempty
    split at nonempty
    · rename_i ending
      exact accounted.open_made (.inl ending.2)
    · rw [List.append_nil] at nonempty
      exact accounted.made session nonempty
  · intro session isOpen
    have kept : ¬(request = .destroy ∧ (after host options requests).session = some session) := by
      rintro ⟨ending, active⟩
      rcases (open_concat unlaunched).mp isOpen with ⟨lasting, _⟩ | replaced
      · exact lasting ending
      · exact (accounted.closable session active).2 replaced
    rw [stories session, if_neg kept, List.append_nil]
    exact accounted.opened session
      (((open_concat unlaunched).mp isOpen).imp_left fun lasting => lasting.2)
  · intro session unopened
    rw [open_concat unlaunched, not_or] at unopened
    rw [stories session]
    split
    · rename_i ending
      rw [accounted.opened session (.inl ending.2),
        story_closingCalls (accounted.closable session ending.2).1]
      exact .tail _ (.tail _ (.head _))
    · rename_i kept
      rw [List.append_nil]
      refine accounted.ended session (not_or.mpr ⟨fun active => ?_, unopened.2⟩)
      exact kept ⟨by_contra fun lasting => unopened.1 ⟨lasting, active⟩, active⟩
  · intro session active
    have served := serves_after host options requests request
    rw [served.session_iff, unlaunched] at active
    rw [replaced_concat_of_not_launch unlaunched]
    obtain ⟨impossible, _⟩ | ⟨_, _, active⟩ := active
    · cases impossible
    · exact accounted.closable session active

end Accounted

theorem accounted (host : Host) (options : BackendOptions) (requests : List Request) :
    Accounted host options requests := by
  induction requests using List.reverseRecOn with
  | nil => exact .initial
  | append_singleton requests request ih =>
      cases launch : request.isLaunch with
      | true => exact ih.concat_launch launch
      | false => exact ih.concat_other launch

def history (host : Host) (options : BackendOptions) (requests : List Request) :
    List (List String) :=
  (ran (giveUp host).run (after host options requests)).2.calls

theorem history_eq (host : Host) (options : BackendOptions) (requests : List Request) :
    history host options requests = (after host options (requests ++ [.destroy])).calls := by
  rw [after_concat]
  rfl

/-- Every session that was opened is closed once and after that, whatever was asked and however the
calls ended, when the backend is given up in the end; except if a launch took its place. -/
theorem session_closed_once (host : Host) (options : BackendOptions) (requests : List Request)
    {session : String}
    (opened : ∃ call ∈ history host options requests, mark? call = some (.opened session)) :
    (¬Replaced host options requests session →
      story session (history host options requests) = [.opened session, .closed session]) ∧
    (Replaced host options requests session →
      story session (history host options requests) = [.opened session]) := by
  have told : .opened session ∈ story session (history host options requests) := by
    obtain ⟨call, member, opening⟩ := opened
    refine List.mem_filter.mpr ⟨List.mem_filterMap.mpr ⟨call, member, opening⟩, ?_⟩
    simp [Mark.session]
  rw [history_eq] at told ⊢
  have last := accounted host options (requests ++ [.destroy])
  have still : Open host options (requests ++ [.destroy]) session ↔
      Replaced host options requests session := by
    rw [open_concat rfl]
    simp
  constructor
  · intro kept
    have possible := last.ended session (still.not.mpr kept)
    simp only [List.mem_cons, List.not_mem_nil, or_false] at possible
    rcases possible with empty | closed | both
    · simp [empty] at told
    · simp [closed] at told
    · exact both
  · intro replaced
    exact last.opened session (still.mpr replaced)

theorem session_closed_once_of_calm :
    let session := launchName calmHost {} 0
    let app : Request := .launch "app" [] none
    ((∃ call ∈ history calmHost {} [app], mark? call = some (.opened session)) ∧
      ¬Replaced calmHost {} [app] session ∧
      story session (history calmHost {} [app]) = [.opened session, .closed session]) ∧
    (∃ call ∈ history calmHost {} [app, app], mark? call = some (.opened session)) ∧
      Replaced calmHost {} [app, app] session ∧
      story session (history calmHost {} [app, app]) = [.opened session] := by
  intro session app
  have opened : ∃ call ∈ history calmHost {} [app], mark? call = some (.opened session) := by
    decide +kernel
  have opened' : ∃ call ∈ history calmHost {} [app, app],
      mark? call = some (.opened session) := by
    decide +kernel
  have kept : ¬Replaced calmHost {} [app] session := by
    rintro ⟨earlier, command, args, directory, later, split, active⟩
    rcases List.singleton_eq_append_iff.mp split with ⟨rfl, _⟩ | ⟨_, impossible⟩
    · cases active
    · cases impossible
  have replaced : Replaced calmHost {} [app, app] session :=
    ⟨[app], "app", [], none, [], rfl, by decide +kernel⟩
  exact ⟨⟨opened, kept, (session_closed_once calmHost {} [app] opened).1 kept⟩,
    opened', replaced, (session_closed_once calmHost {} [app, app] opened').2 replaced⟩

/-- The first of two sessions is never closed if the second takes its place. -/
theorem session_left_open :
    let requests : List Request := [.launch "app" [] none, .launch "app" [] none, .destroy]
    let session := launchName calmHost {} 0
    (∃ call ∈ history calmHost {} requests, mark? call = some (.opened session)) ∧
      ∀ call ∈ history calmHost {} requests, mark? call ≠ some (.closed session) := by
  decide +kernel

end TerminalScript.Tmux
