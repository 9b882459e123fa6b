import Mathlib.Data.List.Induction
import Mathlib.Data.List.Infix
import Mathlib.Tactic.IntervalCases
import TerminalScript.Proofs.Transcript.Spelling

/-!
When a transcript keeps whole characters. Text comes in chunks that may end inside a character, and
a trim may come before the rest of it. If at least three bytes are to be retained, a trim cannot
take the start of a character whose end is still to come; if fewer are, and any are kept at all, it
can.
-/

namespace TerminalScript.Transcript

/-- However a text comes in chunks, after each of them the bytes kept are none or begin with a
character. -/
def KeepsCharacters (limit retain : Nat) : Prop :=
  ∀ (text : String) (chunks : List (List UInt8)), chunks.flatten = Text.encode text →
    ∀ earlier, earlier <+: chunks → Whole (ofAppends limit retain earlier).data

variable {limit retain : Nat} {appended stream : List UInt8} {transcript : Transcript}

theorem ofAppends_concat (limit retain : Nat) (earlier : List (List UInt8)) (bytes : List UInt8) :
    ofAppends limit retain (earlier ++ [bytes]) =
      (ofAppends limit retain earlier).append bytes := by
  rw [ofAppends, List.foldl_append]
  rfl

theorem Whole.of_prefix {bytes longer : List UInt8} (whole : Whole longer)
    (within : bytes <+: longer) : Whole bytes := by
  obtain ⟨rest, rfl⟩ := within
  intro byte first
  exact whole byte (by simp [List.head?_append, Option.mem_def.mp first])

/-- An append either keeps all, or cuts what has been appended before as many bytes as are to be
retained, and moves that cut on within them. -/
theorem append_cut (ends : Ends limit retain appended transcript) (bytes : List UInt8) :
    transcript.append bytes = { transcript with data := transcript.data ++ bytes } ∧
      transcript.data.length + bytes.length ≤ limit ∨
    ∃ before window, appended ++ bytes = before ++ window ∧ window.length = min retain limit ∧
      (transcript.append bytes).trimmed = before.length + extraCut (min retain limit) window ∧
      (transcript.append bytes).data = window.drop (extraCut (min retain limit) window) := by
  by_cases fits : (transcript.data ++ bytes).length ≤ transcript.limit
  · have within : transcript.data.length + bytes.length ≤ limit := by
      rw [← List.length_append, ← ends.limit_eq]
      exact fits
    exact .inl ⟨append_of_fits fits, within⟩
  · have trimmed : transcript.trimmed ≤ appended.length := ends.counted ▸ Nat.le_add_right _ _
    have kept : transcript.data ++ bytes = (appended ++ bytes).drop transcript.trimmed := by
      rw [List.drop_append_of_le_length trimmed, ← ends.kept]
    have retained := ends.retain_le
    let start := (transcript.data ++ bytes).length - transcript.retain
    let window := (transcript.data ++ bytes).drop start
    have started : window = (appended ++ bytes).drop (transcript.trimmed + start) := by
      rw [← List.drop_drop, ← kept]
    have size : (appended ++ bytes).length =
        transcript.trimmed + (transcript.data ++ bytes).length := by
      rw [List.length_append, List.length_append, ← ends.counted, Nat.add_assoc]
    have cut : transcript.append bytes =
        { transcript with
          data := (transcript.data ++ bytes).drop (start + extraCut transcript.retain window)
          trimmed := transcript.trimmed + (start + extraCut transcript.retain window) } :=
      if_pos (Nat.not_le.mp fits)
    refine .inr ⟨(appended ++ bytes).take (transcript.trimmed + start), window, ?_, ?_, ?_, ?_⟩
    · rw [started, List.take_append_drop]
    · rw [List.length_drop, ← ends.retain_eq]
      omega
    · rw [cut, ← ends.retain_eq, List.length_take]
      dsimp only
      omega
    · rw [cut, ← ends.retain_eq, List.drop_drop]

/-- A transcript whose bytes go back to a character, be it one that is still to come, keeps doing
so with an append of more of the text. -/
theorem Spelled.whole_append (spelled : Spelled stream) (long : 3 ≤ min retain limit)
    (ends : Ends limit retain appended transcript) {bytes : List UInt8}
    (fed : appended ++ bytes <+: stream) (whole : Whole (stream.drop transcript.trimmed)) :
    Whole (stream.drop (transcript.append bytes).trimmed) := by
  rcases append_cut ends bytes with ⟨same, -⟩ | ⟨before, window, split, size, trimmed, -⟩
  · rw [same]
    exact whole
  · obtain ⟨later, rfl⟩ := fed
    have after : before ++ (window ++ later) = appended ++ bytes ++ later := by
      rw [split, List.append_assoc]
    have within : window ++ later <:+ appended ++ bytes ++ later := ⟨before, after⟩
    rw [trimmed, ← after, ← List.drop_drop, List.drop_left]
    exact spelled.whole_after_cut within (min retain limit) (size ▸ long)

theorem Spelled.whole_ofAppends (spelled : Spelled stream) (long : 3 ≤ min retain limit)
    {earlier : List (List UInt8)} (fed : earlier.flatten <+: stream) :
    Whole (stream.drop (ofAppends limit retain earlier).trimmed) := by
  induction earlier using List.reverseRecOn with
  | nil => exact spelled.whole
  | append_singleton earlier bytes ih =>
      rw [List.flatten_concat] at fed
      rw [ofAppends_concat]
      have ends := ofAppends_ends limit retain earlier
      exact spelled.whole_append long ends fed (ih ((List.prefix_append _ _).trans fed))

theorem keepsCharacters_of_long (long : 3 ≤ min retain limit) : KeepsCharacters limit retain := by
  intro text chunks spelling earlier within
  have fed : earlier.flatten <+: Text.encode text := by
    obtain ⟨later, rfl⟩ := within
    exact ⟨later.flatten, by rw [← spelling, List.flatten_append]⟩
  have whole := (spelled_encode text).whole_ofAppends long fed
  refine whole.of_prefix ?_
  rw [(ofAppends_ends limit retain earlier).kept]
  exact fed.drop _

theorem keepsCharacters_of_unlimited (none : limit = 0) : KeepsCharacters limit retain := by
  intro text chunks _ earlier _
  have bounded := (ofAppends_ends limit retain earlier).bounded
  have empty : (ofAppends limit retain earlier).data = [] :=
    List.length_eq_zero_iff.mp (by omega)
  rw [empty]
  exact spelled_nil.whole

def lateText (limit : Nat) : String :=
  String.ofList (List.replicate limit 'a' ++ ['😀'])

def lateChunks (limit : Nat) : List (List UInt8) :=
  [List.replicate limit 97 ++ [240, 159, 152], [128]]

theorem flatten_lateChunks (limit : Nat) :
    (lateChunks limit).flatten = Text.encode (lateText limit) := by
  rw [Text.encode_eq, lateText, String.toList_ofList, List.flatMap_append, List.flatMap_replicate]
  have letter : String.utf8EncodeChar 'a' = [97] := by decide
  have sign : String.utf8EncodeChar '😀' = [240, 159, 152, 128] := by decide
  simp [lateChunks, letter, sign]

/-- If fewer than three bytes are to be retained, all of them continue the last character, and the
trim drops them. -/
theorem data_late (few : min retain limit < 3) :
    ((new limit retain).append (List.replicate limit 97 ++ [240, 159, 152])).data = [] := by
  rcases append_cut (new_ends limit retain) (List.replicate limit 97 ++ [240, 159, 152]) with
    ⟨-, fits⟩ | ⟨before, window, split, size, -, kept⟩
  · rw [List.length_append, List.length_replicate] at fits
    exact absurd fits (by simp; omega)
  · have last : window = ([240, 159, 152] : List UInt8).drop (3 - min retain limit) := by
      have within : window <:+ List.replicate limit 97 ++ [240, 159, 152] := ⟨before, split.symm⟩
      have place : limit + 3 - min retain limit = limit + (3 - min retain limit) := by omega
      have whole : (List.replicate limit (97 : UInt8) ++ [240, 159, 152]).length = limit + 3 := by
        simp
      rw [List.suffix_iff_eq_drop.mp within, size, whole, place, List.drop_append]
      simp
    rw [kept, last]
    generalize min retain limit = count at few ⊢
    interval_cases count <;> decide

theorem not_keepsCharacters (few : min retain limit < 3) (limited : limit ≠ 0) :
    ¬KeepsCharacters limit retain := by
  intro keeps
  have whole := keeps (lateText limit) (lateChunks limit) (flatten_lateChunks limit) _
    (List.prefix_refl _)
  let before := (new limit retain).append (List.replicate limit 97 ++ [240, 159, 152])
  have empty : before.data = [] := data_late few
  have unchanged : before.limit = limit := ((new_ends limit retain).append _).limit_eq
  have fits : (before.data ++ [128]).length ≤ before.limit := by
    rw [empty, unchanged]
    exact Nat.pos_of_ne_zero limited
  have data : (ofAppends limit retain (lateChunks limit)).data = [128] := by
    change (before.append [128]).data = [128]
    rw [append_of_fits fits, empty]
    rfl
  rw [data] at whole
  exact absurd (whole 128 rfl) (by decide)

theorem length_data_of_trim (ends : Ends limit retain appended transcript)
    {bytes : List UInt8} (spelled : Spelled stream) (fed : appended ++ bytes <+: stream)
    (trimmed : transcript.trimmed < (transcript.append bytes).trimmed) :
    min ((min retain limit + 1) / 2) (min retain limit - 3) ≤
      (transcript.append bytes).data.length := by
  rcases append_cut ends bytes with ⟨same, -⟩ | ⟨before, window, split, size, -, kept⟩
  · rw [same] at trimmed
    exact absurd trimmed (Nat.lt_irrefl _)
  · obtain ⟨later, rfl⟩ := fed
    have within : window ++ later <:+ appended ++ bytes ++ later :=
      ⟨before, by rw [split, List.append_assoc]⟩
    have cut := spelled.extraCut_le within (min retain limit)
    rw [kept, List.length_drop, size]
    omega

/-- A transcript never splits a character, however text comes in chunks, exactly if it retains at
least three bytes or keeps none at all. If it retains at least three, each trim leaves half of them,
rounded up, or all but three. -/
theorem keepsCharacters_iff (limit retain : Nat) :
    (KeepsCharacters limit retain ↔ 3 ≤ min retain limit ∨ limit = 0) ∧
    (3 ≤ min retain limit →
      ∀ (text : String) (chunks : List (List UInt8)), chunks.flatten = Text.encode text →
        ∀ earlier bytes, earlier ++ [bytes] <+: chunks →
          let transcript := ofAppends limit retain earlier
          transcript.trimmed < (transcript.append bytes).trimmed →
            min ((min retain limit + 1) / 2) (min retain limit - 3) ≤
              (transcript.append bytes).data.length) := by
  refine ⟨⟨fun keeps => ?_, ?_⟩, ?_⟩
  · by_contra short
    obtain ⟨few, limited⟩ := not_or.mp short
    exact not_keepsCharacters (Nat.not_le.mp few) limited keeps
  · rintro (long | none)
    · exact keepsCharacters_of_long long
    · exact keepsCharacters_of_unlimited none
  · intro _ text chunks spelling earlier bytes within transcript trimmed
    have fed : earlier.flatten ++ bytes <+: Text.encode text := by
      obtain ⟨later, rfl⟩ := within
      exact ⟨later.flatten, by simp [← spelling]⟩
    have ends := ofAppends_ends limit retain earlier
    exact length_data_of_trim ends (spelled_encode text) fed trimmed

end TerminalScript.Transcript
