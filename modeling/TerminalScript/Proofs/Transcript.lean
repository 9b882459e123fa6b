import TerminalScript.Transcript

/-!
What a transcript keeps: the end of all that was appended, with a count of the bytes before it, and
never more than its limit. A trim computes its cut from differences and slices, and the checked
form of appending, in which each of them fails when it is out of range, never fails.
-/

namespace TerminalScript.Transcript

def ofAppends (limit retain : Nat) (appends : List (List UInt8)) : Transcript :=
  appends.foldl append (new limit retain)

def difference? (whole part : Nat) : Option Nat :=
  if part ≤ whole then some (whole - part) else none

def slice? (bytes : List UInt8) (start stop : Nat) : Option (List UInt8) :=
  if start ≤ stop ∧ stop ≤ bytes.length then some ((bytes.drop start).take (stop - start)) else none

def cutPoint? (data : List UInt8) (retain start : Nat) : Option Nat := do
  let window ← slice? data start data.length
  let near ← slice? window 0 (min window.length (retain / 2))
  match near.idxOf? lineFeed with
  | some position => pure (start + position + 1)
  | none => pure (start + (window.takeWhile isContinuation).length)

def append? (transcript : Transcript) (bytes : List UInt8) : Option Transcript := do
  let data := transcript.data ++ bytes
  if data.length > transcript.limit then
    let start ← difference? data.length transcript.retain
    let cut ← cutPoint? data transcript.retain start
    let kept ← slice? data cut data.length
    pure { transcript with data := kept, trimmed := transcript.trimmed + cut }
  else pure { transcript with data }

theorem difference?_of_le {whole part : Nat} (bounded : part ≤ whole) :
    difference? whole part = some (whole - part) :=
  if_pos bounded

theorem slice?_to_end {bytes : List UInt8} {start : Nat} (bounded : start ≤ bytes.length) :
    slice? bytes start bytes.length = some (bytes.drop start) := by
  rw [slice?, if_pos ⟨bounded, Nat.le_refl _⟩, ← List.length_drop, List.take_length]

theorem slice?_from_start (bytes : List UInt8) (count : Nat) :
    slice? bytes 0 (min bytes.length count) = some (bytes.take count) := by
  rw [slice?, if_pos ⟨Nat.zero_le _, Nat.min_le_left _ _⟩, List.drop_zero, Nat.sub_zero,
    Nat.min_comm, ← List.take_eq_take_min]

theorem extraCut_le (retain : Nat) (window : List UInt8) :
    extraCut retain window ≤ window.length := by
  unfold extraCut
  split
  · rename_i position found
    have near : position < (window.take (retain / 2)).length :=
      (List.findIdx?_eq_some_iff_findIdx_eq.mp found).1
    rw [List.length_take] at near
    omega
  · exact (List.takeWhile_sublist _).length_le

theorem cutPoint?_of_le {data : List UInt8} {start : Nat} (retain : Nat)
    (bounded : start ≤ data.length) :
    cutPoint? data retain start = some (start + extraCut retain (data.drop start)) := by
  refine Option.bind_eq_some_iff.mpr ⟨_, slice?_to_end bounded, ?_⟩
  refine Option.bind_eq_some_iff.mpr ⟨_, slice?_from_start _ _, ?_⟩
  unfold extraCut
  cases ((data.drop start).take (retain / 2)).idxOf? lineFeed <;> rfl

structure Ends (limit retain : Nat) (appended : List UInt8) (transcript : Transcript) : Prop where
  limit_eq : transcript.limit = limit
  retain_eq : transcript.retain = min retain limit
  counted : transcript.trimmed + transcript.data.length = appended.length
  kept : transcript.data = appended.drop transcript.trimmed
  bounded : transcript.data.length ≤ limit

variable {limit retain : Nat} {appended : List UInt8} {transcript : Transcript}

theorem new_ends (limit retain : Nat) : Ends limit retain [] (new limit retain) :=
  ⟨rfl, rfl, rfl, rfl, Nat.zero_le _⟩

theorem append_of_fits {bytes : List UInt8}
    (fits : (transcript.data ++ bytes).length ≤ transcript.limit) :
    transcript.append bytes = { transcript with data := transcript.data ++ bytes } :=
  if_neg (Nat.not_lt.mpr fits)

/-- An append past the limit: the cut lies within the bytes, and at most what is to be retained
comes after it. -/
theorem append_of_exceeds {bytes : List UInt8}
    (exceeds : transcript.limit < (transcript.data ++ bytes).length)
    (sound : transcript.retain ≤ transcript.limit) :
    ∃ cut, transcript.append bytes =
        { transcript with
          data := (transcript.data ++ bytes).drop cut, trimmed := transcript.trimmed + cut } ∧
      transcript.append? bytes = some (transcript.append bytes) ∧ 0 < cut ∧
      cut ≤ (transcript.data ++ bytes).length ∧
      ((transcript.data ++ bytes).drop cut).length ≤ transcript.retain := by
  let data := transcript.data ++ bytes
  let start := data.length - transcript.retain
  let cut := start + extraCut transcript.retain (data.drop start)
  have appended : transcript.append bytes =
      { transcript with data := data.drop cut, trimmed := transcript.trimmed + cut } :=
    if_pos exceeds
  have longer : transcript.limit < data.length := exceeds
  have retained : transcript.retain ≤ data.length := by omega
  have started : start ≤ data.length := Nat.sub_le _ _
  have extra : extraCut transcript.retain (data.drop start) ≤ data.length - start := by
    rw [← List.length_drop]
    exact extraCut_le transcript.retain (data.drop start)
  have within : cut ≤ data.length := by omega
  refine ⟨cut, appended, ?_, by omega, within, ?_⟩
  · rw [appended, append?, if_pos exceeds]
    refine Option.bind_eq_some_iff.mpr ⟨start, difference?_of_le retained, ?_⟩
    refine Option.bind_eq_some_iff.mpr ⟨cut, cutPoint?_of_le _ started, ?_⟩
    exact Option.bind_eq_some_iff.mpr ⟨_, slice?_to_end within, rfl⟩
  · have short : (data.drop cut).length = data.length - cut := List.length_drop
    change (data.drop cut).length ≤ transcript.retain
    omega

theorem Ends.retain_le (ends : Ends limit retain appended transcript) :
    transcript.retain ≤ transcript.limit := by
  rw [ends.retain_eq, ends.limit_eq]
  exact Nat.min_le_right _ _

theorem Ends.append (ends : Ends limit retain appended transcript) (bytes : List UInt8) :
    Ends limit retain (appended ++ bytes) (transcript.append bytes) := by
  obtain ⟨limit_eq, retain_eq, counted, kept, bounded⟩ := ends
  have trimmed : transcript.trimmed ≤ appended.length := by omega
  have extended : transcript.data ++ bytes = (appended ++ bytes).drop transcript.trimmed := by
    rw [List.drop_append_of_le_length trimmed, ← kept]
  have longer : (transcript.data ++ bytes).length = transcript.data.length + bytes.length :=
    List.length_append
  have total : (appended ++ bytes).length = appended.length + bytes.length := List.length_append
  by_cases fits : (transcript.data ++ bytes).length ≤ transcript.limit
  · rw [append_of_fits fits]
    refine ⟨limit_eq, retain_eq, ?_, extended, limit_eq ▸ fits⟩
    dsimp only
    omega
  · have sound : transcript.retain ≤ transcript.limit := by omega
    obtain ⟨cut, same, _, _, within, short⟩ := append_of_exceeds (Nat.not_le.mp fits) sound
    have remaining : ((transcript.data ++ bytes).drop cut).length =
        (transcript.data ++ bytes).length - cut := List.length_drop
    rw [same]
    refine ⟨limit_eq, retain_eq, ?_, ?_, ?_⟩
    · dsimp only
      omega
    · dsimp only
      rw [extended, List.drop_drop]
    · dsimp only
      omega

theorem Ends.foldl (ends : Ends limit retain appended transcript)
    (appends : List (List UInt8)) :
    Ends limit retain (appended ++ appends.flatten) (appends.foldl Transcript.append transcript) := by
  induction appends generalizing appended transcript with
  | nil => simpa using ends
  | cons bytes rest ih =>
      rw [List.flatten_cons, ← List.append_assoc, List.foldl_cons]
      exact ih (ends.append bytes)

theorem ofAppends_ends (limit retain : Nat) (appends : List (List UInt8)) :
    Ends limit retain appends.flatten (ofAppends limit retain appends) := by
  have ends := (new_ends limit retain).foldl appends
  rwa [List.nil_append] at ends

theorem append?_eq_some (ends : Ends limit retain appended transcript) (bytes : List UInt8) :
    transcript.append? bytes = some (transcript.append bytes) := by
  by_cases fits : (transcript.data ++ bytes).length ≤ transcript.limit
  · rw [append_of_fits fits, append?]
    exact if_neg (Nat.not_lt.mpr fits)
  · obtain ⟨_, _, checked, _⟩ := append_of_exceeds (Nat.not_le.mp fits) ends.retain_le
    exact checked

/-- An append trims exactly if the bytes would outgrow the limit. -/
theorem trimmed_lt_append_iff (ends : Ends limit retain appended transcript) (bytes : List UInt8) :
    transcript.trimmed < (transcript.append bytes).trimmed ↔
      limit < transcript.data.length + bytes.length := by
  rw [← ends.limit_eq, ← List.length_append]
  by_cases fits : (transcript.data ++ bytes).length ≤ transcript.limit
  · rw [append_of_fits fits]
    exact iff_of_false (Nat.lt_irrefl _) (Nat.not_lt.mpr fits)
  · obtain ⟨cut, same, _, positive, _⟩ := append_of_exceeds (Nat.not_le.mp fits) ends.retain_le
    rw [same]
    exact iff_of_true (Nat.lt_add_of_pos_right positive) (Nat.not_le.mp fits)

theorem length_append_of_exceeds (ends : Ends limit retain appended transcript) {bytes : List UInt8}
    (exceeds : limit < transcript.data.length + bytes.length) :
    (transcript.append bytes).data.length ≤ min retain limit := by
  rw [← ends.limit_eq, ← List.length_append] at exceeds
  obtain ⟨_, same, _, _, _, short⟩ := append_of_exceeds exceeds ends.retain_le
  rw [same, ← ends.retain_eq]
  exact short

/-- After any appends a transcript holds their end, the bytes before it are counted, and it keeps to
its limit. A further append never leaves the range of its bytes, and if it trims, no more is left
than is to be retained. -/
theorem ofAppends_eq_drop (limit retain : Nat) (appends : List (List UInt8)) :
    let transcript := ofAppends limit retain appends
    transcript.data = appends.flatten.drop transcript.trimmed ∧
    transcript.trimmed + transcript.data.length = appends.flatten.length ∧
    transcript.data.length ≤ limit ∧
    ∀ bytes, transcript.append? bytes = some (transcript.append bytes) ∧
      (transcript.trimmed < (transcript.append bytes).trimmed ↔
        limit < transcript.data.length + bytes.length) ∧
      (transcript.trimmed < (transcript.append bytes).trimmed →
        (transcript.append bytes).data.length ≤ min retain limit) := by
  intro transcript
  have ends : Ends limit retain appends.flatten transcript := ofAppends_ends limit retain appends
  refine ⟨ends.kept, ends.counted, ends.bounded, fun bytes => ?_⟩
  have trims := trimmed_lt_append_iff ends bytes
  exact ⟨append?_eq_some ends bytes, trims,
    fun trimmed => length_append_of_exceeds ends (trims.mp trimmed)⟩

/-- A cut in the middle of a character is moved past it. -/
example : (ofAppends 10 4 [[97, 98, 99, 100, 101, 102, 103, 195, 169, 120, 121, 122]]).data =
    [120, 121, 122] := by
  decide

end TerminalScript.Transcript
