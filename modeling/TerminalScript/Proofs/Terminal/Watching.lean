import TerminalScript.Proofs.Outcomes
import TerminalScript.Proofs.Terminal.Fingerprint
import TerminalScript.Proofs.Terminal.Session
import TerminalScript.Proofs.Wait.Samples

/-!
Waiting for the screen of a terminal to stay the same, while the process may print. The wait
compares fingerprints, so it notices each change of a character and of the cursor's place between
its looks, and no change that is of marks alone.
-/

namespace TerminalScript.Pty

open Terminal (Emulator Grid)
open Terminal.Grid (SameShape SameMarks Resembles)

variable {state : State} {elapse : Nat → State → State} {interval : Nat}

def State.grid? (state : State) : Option Grid :=
  state.session.map fun session => session.display.emulator.grid

def watching (elapse : Nat → State → State) (interval : Nat) : Watch State (List UInt8) where
  now := State.time
  sleep := elapse
  interval := interval
  look := do pure (← grid).fingerprint

def awaitStable (elapse : Nat → State → State) (options : BackendOptions) (stable timeout : Nat) :
    Operation State Unit :=
  let digest := do
    pure (← grid).screenHash
  Backend.awaitStable State.time elapse options.stabilitySample.toNat digest stable timeout

theorem ran_look (elapse : Nat → State → State) (interval : Nat) (state : State) :
    ran (watching elapse interval).look.run state =
      ((state.grid?.map Grid.fingerprint).elim (.error notStarted) .ok, state) := by
  rcases active : state.session with - | session
  · have missing : ran grid.run state = (.error notStarted, state) :=
      ran_run_bind_error (ran_current_of_none active) _
    rw [watching, ran_run_bind_error missing, State.grid?, active]
    rfl
  · rw [watching, ran_run_bind_ok (ran_grid active), State.grid?, active]
    rfl

theorem watching_steady
    (exact : ∀ duration state, (elapse duration state).time = state.time + duration)
    (interval : Nat) : (watching elapse interval).Steady where
  still state := by rw [ran_look]
  exact := exact

theorem awaitStable_eq (elapse : Nat → State → State) (options : BackendOptions)
    (stable timeout : Nat) :
    let watch := watching elapse (max options.stabilitySample.toNat 1)
    awaitStable elapse options stable timeout =
      Backend.awaitStable watch.now watch.sleep watch.interval (watch.digested Digest.sha256Hex)
        stable timeout := by
  intro watch
  have digested : (do pure (← grid).screenHash : Operation State String) =
      watch.digested Digest.sha256Hex := by
    simp only [Watch.digested, watch, watching, bind_assoc, pure_bind]
    rfl
  rw [awaitStable, digested]
  exact (awaitStable_least State.time elapse _ _ stable timeout).symm

variable {timeout look : Nat}

theorem sampled_eq (elapse : Nat → State → State) (interval timeout : Nat) (state : State)
    (look : Nat) :
    (watching elapse interval).sampled timeout state look =
      (((watching elapse interval).place (state.time + timeout) state look).grid?.map
        Grid.fingerprint).elim (.error notStarted) .ok :=
  congrArg Prod.fst (ran_look elapse interval _)

theorem sampled_eq_ok {bytes : List UInt8}
    (seen : (watching elapse interval).sampled timeout state look = .ok bytes) :
    ∃ grid, ((watching elapse interval).place (state.time + timeout) state look).grid? = some grid ∧
      grid.fingerprint = bytes := by
  rw [sampled_eq] at seen
  rcases shown : ((watching elapse interval).place (state.time + timeout) state look).grid? with
    - | grid
  · rw [shown] at seen
    cases seen
  · rw [shown] at seen
    exact ⟨grid, rfl, Except.ok.inj seen⟩

/-- A wait for a stable screen ends with the first sample that ends a time, as long as asked for, in
which all samples have the same fingerprint, if different ones have different digests. Grids of one
shape have the same fingerprint exactly if their cells have the same characters and the cursor is
at the same place. They show the same text if the marks are the same, too; but a mark that is
written goes unnoticed. -/
theorem awaitStable_concludes_by_fingerprint (options : BackendOptions) (refusal : Refusal)
    (machine : Machine) (elapse : Nat → State → State)
    (exact : ∀ duration state, (elapse duration state).time = state.time + duration)
    (stable timeout : Nat) (state : State) :
    let interval := max options.stabilitySample.toNat 1
    let watch := watching elapse interval
    let moment look := min (look * interval) timeout
    let shown look := (watch.place (state.time + timeout) state look).grid?
    let waited := ran (awaitStable elapse options stable timeout).run state
    (∀ grid grid', SameShape grid grid' →
      (grid.fingerprint = grid'.fingerprint ↔ Resembles grid grid') ∧
      (Resembles grid grid' → SameMarks grid grid' → grid.screenText = grid'.screenText)) ∧
    (∀ c, Unicode.width? c = some 0 → ∀ emulator : Emulator,
      (emulator.write c).grid.fingerprint = emulator.grid.fingerprint) ∧
    (elapse = sleep →
      waited = ran ((backend options refusal machine).waitForStable stable timeout).run state) ∧
    (watch.Distinguished Digest.sha256Hex timeout state → ∃ count,
      watch.Concludes (fun look _ => watch.Settled timeout state stable look)
        (.matchTimeout (.stable stable) timeout) timeout state count waited ∧
      (waited.1 = .ok () → ∀ look ≤ count, moment count ≤ moment look + stable →
        ∃ grid grid', shown look = some grid ∧ shown count = some grid' ∧
          grid.fingerprint = grid'.fingerprint)) := by
  intro interval watch moment shown waited
  refine ⟨fun grid grid' shape => ?_, fun _ => Terminal.fingerprint_write, ?_, fun distinct => ?_⟩
  · exact ⟨Terminal.Grid.fingerprint_eq_iff_resembles shape,
      Terminal.Grid.screenText_eq_of_resembles shape⟩
  · rintro rfl
    rfl
  · have positive : 0 < interval := by omega
    obtain ⟨count, concludes⟩ :=
      Watch.awaitStable_concludes positive (watching_steady exact interval) stable distinct
    rw [← awaitStable_eq] at concludes
    refine ⟨count, concludes, fun answered look within recent => ?_⟩
    obtain ⟨bytes, seen, settled⟩ := concludes.met answered
    have early (earlier : Nat) (before : earlier < count) : earlier * interval < timeout :=
      (concludes.undecided earlier before).1
    have same : watch.sampled timeout state look = .ok bytes :=
      (settled.eq_of_recent early positive within recent).trans seen
    obtain ⟨grid, shows, print⟩ := sampled_eq_ok same
    obtain ⟨grid', shows', print'⟩ := sampled_eq_ok seen
    exact ⟨grid, grid', shows, shows', print.trans print'.symm⟩

def small : BackendOptions := { cols := 3, rows := 2, stabilitySample := 5 }

def after (text : String) : Session :=
  (Session.start small 1000).print (Text.encode text)

def fingerprintAfter (text : String) : List UInt8 :=
  (after text).display.emulator.grid.fingerprint

def dotted (duration : Nat) (state : State) : State :=
  if state.time = 0 then (sleep duration state).print (Text.encode ".") else sleep duration state

theorem time_dotted (duration : Nat) (state : State) :
    (dotted duration state).time = state.time + duration := by
  rw [dotted]
  split <;> rfl

theorem sampled_dotted (due : look < 3) :
    (watching dotted 5).sampled 10 { session := some (after "a") } look =
      .ok (fingerprintAfter (if look = 0 then "a" else "a.")) := by
  have shown : ∀ look < 3,
      ((watching dotted 5).place 10 { session := some (after "a") } look).grid?.map
        Grid.fingerprint = some (fingerprintAfter (if look = 0 then "a" else "a.")) := by
    decide +kernel
  have answers := congrArg (Option.elim · (.error notStarted) Except.ok) (shown look due)
  exact (sampled_eq dotted 5 10 _ look).trans answers

theorem dotted_distinguished : (watching dotted 5).Distinguished Digest.sha256Hex 10
    { session := some (after "a") } := by
  have digests : Digest.sha256Hex (fingerprintAfter "a") ≠
      Digest.sha256Hex (fingerprintAfter "a.") := by decide +kernel
  intro look look' bytes bytes' due due' seen seen' same
  have within : look * 5 < 10 + 5 := due
  have within' : look' * 5 < 10 + 5 := due'
  rw [sampled_dotted (by omega), Except.ok.injEq] at seen
  rw [sampled_dotted (by omega), Except.ok.injEq] at seen'
  subst seen seen'
  by_cases first : look = 0 <;> by_cases first' : look' = 0 <;>
    simp only [first, first', if_true, if_false] at same ⊢
  · exact absurd same digests
  · exact absurd same.symm digests

/-- A vowel that joins the letter before it. -/
theorem width_vowel : Unicode.width? '\u1161' = some 0 := by
  have joins : Unicode.joining.contains 0x1161 = true := by decide
  simp [Unicode.width?, joins]

/-- The wait notices the dot, and nothing comes after it. How characters are drawn makes no
difference, and a vowel that joins a letter makes none to the fingerprint. -/
theorem awaitStable_concludes_by_fingerprint_of_dotted :
    let state : State := { session := some (after "a") }
    let waited := ran (awaitStable dotted small 5 10).run state
    let plain := (after "ab").display.emulator.grid
    let inverse := (after "a\x1b[7mb").display.emulator.grid
    let blank := Emulator.new 3 2 0
    (∀ duration state, (dotted duration state).time = state.time + duration) ∧
      ((watching dotted 5).Distinguished Digest.sha256Hex 10 state ∧ waited.1 = .ok () ∧
        waited.2.time = 10 ∧ ∃ grid grid',
          ((watching dotted 5).place 10 state 1).grid? = some grid ∧
          ((watching dotted 5).place 10 state 2).grid? = some grid' ∧
          grid.fingerprint = grid'.fingerprint) ∧
      (plain ≠ inverse ∧ SameShape plain inverse ∧ Resembles plain inverse ∧
        SameMarks plain inverse ∧ plain.screenText = inverse.screenText) ∧
      Unicode.width? '\u1161' = some 0 ∧
        (blank.write '\u1161').grid.fingerprint = blank.grid.fingerprint := by
  intro state waited plain inverse blank
  obtain ⟨fingerprints, marks, _, settles⟩ :=
    awaitStable_concludes_by_fingerprint small (fun _ => none) {} dotted time_dotted 5 10 state
  refine ⟨time_dotted, ⟨dotted_distinguished, ?_⟩, ?_, width_vowel, marks _ width_vowel blank⟩
  · have ended : waited.1.isOk = true ∧ waited.2.time = 10 := by decide +kernel
    obtain ⟨_, answered⟩ := isOk_eq_true.mp ended.1
    obtain ⟨count, concludes, same⟩ := settles dotted_distinguished
    have moment : waited.2.time = min (count * 5) 10 :=
      (concludes.now_last (watching_steady time_dotted _)).trans (Nat.zero_add _)
    have due : count * 5 < 10 + 5 := concludes.due (by decide)
    obtain rfl : count = 2 := by omega
    exact ⟨answered, ended.2, same answered 1 (by decide) (by decide)⟩
  · have shape : SameShape plain inverse := by decide +kernel
    have resembles : Resembles plain inverse :=
      (fingerprints plain inverse shape).1.mp (by decide +kernel)
    have sameMarks : SameMarks plain inverse :=
      (Terminal.Grid.cellsBy_eq_iff Terminal.Cell.marks? shape).mp (by decide +kernel)
    exact ⟨by decide +kernel, shape, resembles, sameMarks,
      (fingerprints plain inverse shape).2 resembles sameMarks⟩

/-- If nothing that is sampled differs, the wait succeeds as soon as it can. -/
theorem awaitStable_of_unchanged {elapse : Nat → State → State}
    (exact : ∀ duration state, (elapse duration state).time = state.time + duration)
    (options : BackendOptions) {stable timeout : Nat} (intime : stable ≤ timeout) {state : State}
    {bytes : List UInt8}
    (unchanged : ∀ look, (watching elapse (max options.stabilitySample.toNat 1)).sampled timeout
      state look = .ok bytes) :
    (ran (awaitStable elapse options stable timeout).run state).1 = .ok () := by
  have distinct : (watching elapse (max options.stabilitySample.toNat 1)).Distinguished
      Digest.sha256Hex timeout state := by
    intro look look' sample sample' _ _ seen seen' _
    rw [unchanged, Except.ok.injEq] at seen seen'
    exact seen.symm.trans seen'
  have positive : 0 < max options.stabilitySample.toNat 1 := by omega
  obtain ⟨count, concludes⟩ :=
    Watch.awaitStable_concludes positive (watching_steady exact _) stable distinct
  rw [awaitStable_eq]
  refine concludes.detects intime (fun look _ => ⟨bytes, unchanged look⟩) fun look _ due _ _ => ?_
  refine ⟨0, Nat.zero_le _, ?_, fun between _ _ => by rw [unchanged, unchanged]⟩
  rw [Nat.zero_mul, Nat.zero_min, Nat.zero_add]
  exact due

def acute : Char := '\u0301'

theorem extends_acute : Unicode.graphemeExtend.contains acute.toNat = true := by
  rw [Unicode.graphemeExtend, Unicode.RangeSet.decode, Unicode.decodeNumbers, String.toList_join]
  simp only [List.flatMap_cons, List.flatMap_nil]
  -- The kernel is slow with long texts, so each is turned into its characters first.
  repeat rw [String.toList_ofList]
  decide +kernel

theorem width_acute : Unicode.width? acute = some 0 := by
  rw [Unicode.width?, extends_acute]
  rfl

/-- Between two characters the bytes of the accent are printed as that. -/
theorem feed_acute {display : Terminal.Display} (ground : display.scanner.phase = .ground) :
    display.feed (Text.encode "\u0301") = { emulator := display.emulator.print acute } := by
  have bytes : Text.encode "\u0301" = [0xCC, 0x81] := by decide +kernel
  obtain ⟨emulator, ⟨phase, draft⟩⟩ := display
  cases ground
  rw [bytes]
  rfl

theorem grid_print (c : Char) (emulator : Emulator) :
    (emulator.print c).grid = (emulator.write c).grid := rfl

theorem display_print (session : Session) (bytes : List UInt8) :
    (session.print bytes).display.scanner = (session.display.feed bytes).scanner ∧
      (session.print bytes).display.emulator.grid = (session.display.feed bytes).emulator.grid :=
  ⟨rfl, rfl⟩

theorem print_acute {session : Session} (ground : session.display.scanner.phase = .ground) :
    (session.print (Text.encode "\u0301")).display.scanner.phase = .ground ∧
      (session.print (Text.encode "\u0301")).display.emulator.grid =
        (session.display.emulator.write acute).grid := by
  obtain ⟨scanner, grid⟩ := display_print session (Text.encode "\u0301")
  rw [scanner, grid, feed_acute ground]
  exact ⟨rfl, grid_print acute _⟩

def accenting (duration : Nat) (state : State) : State :=
  (sleep duration state).print (Text.encode "\u0301")

theorem time_accenting (duration : Nat) (state : State) :
    (accenting duration state).time = state.time + duration := rfl

def State.Rests (bytes : List UInt8) (state : State) : Prop :=
  ∃ session, state.session = some session ∧ session.display.scanner.phase = .ground ∧
    session.display.emulator.grid.fingerprint = bytes

theorem State.Rests.accenting {bytes : List UInt8} {state : State} (rests : state.Rests bytes)
    (duration : Nat) : (accenting duration state).Rests bytes := by
  obtain ⟨session, active, ground, rfl⟩ := rests
  obtain ⟨ground', written⟩ := print_acute ground
  refine ⟨session.print (Text.encode "\u0301"), ?_, ground', ?_⟩
  · rw [Pty.accenting, State.print, State.modifySession, Pty.sleep, active]
    rfl
  · rw [written]
    exact Terminal.fingerprint_write width_acute session.display.emulator

theorem sampled_accenting {bytes : List UInt8} {state : State} (rests : state.Rests bytes)
    (interval timeout look : Nat) :
    (watching accenting interval).sampled timeout state look = .ok bytes := by
  have placed : ((watching accenting interval).place (state.time + timeout) state look).Rests
      bytes := by
    induction look with
    | zero => exact rests
    | succ look ih =>
        rw [Watch.place_after, Watch.next, ran_look]
        exact ih.accenting _
  obtain ⟨session, active, _, same⟩ := placed
  rw [sampled_eq, State.grid?, active, ← same]
  rfl

/-- An accent over the first of two characters changes the text and not the fingerprint, so the wait
takes the screen for stable. -/
theorem accents_unnoticed :
    let state : State := { session := some (after "ea\r") }
    let shown look := ((watching accenting 5).place 10 state look).grid?
    (∃ grid grid', shown 0 = some grid ∧ shown 1 = some grid' ∧ SameShape grid grid' ∧
      grid.cursor = grid'.cursor ∧ grid.fingerprint = grid'.fingerprint ∧
      grid.screenText = "ea" ∧ grid'.screenText = "e\u0301a") ∧
    (ran (awaitStable accenting small 5 10).run state).1.isOk = true := by
  intro state shown
  have ground : (after "ea\r").display.scanner.phase = .ground := by decide +kernel
  have rests : state.Rests (fingerprintAfter "ea\r") := ⟨_, rfl, ground, rfl⟩
  have next : shown 1 = some ((after "ea\r").display.emulator.write acute).grid :=
    congrArg some (print_acute ground).2
  rw [Terminal.write_eq_putMark width_acute] at next
  have succeeds : (ran (awaitStable accenting small 5 10).run state).1 = .ok () :=
    awaitStable_of_unchanged time_accenting small (by decide) (sampled_accenting rests 5 10)
  refine ⟨⟨_, _, rfl, next, ?_, ?_, ?_, ?_, ?_⟩, isOk_eq_true.mpr ⟨(), succeeds⟩⟩
  all_goals decide +kernel

end TerminalScript.Pty
