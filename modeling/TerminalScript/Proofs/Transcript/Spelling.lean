import Mathlib.Data.List.TakeWhile
import TerminalScript.Proofs.Text.Utf8
import TerminalScript.Proofs.Transcript

/-!
Text in bytes, as a trim sees it. Wherever one looks at most three bytes continue a character, and
after a line feed a character begins. So a cut that passes over a line, or over at least three bytes
that continue a character, comes before a character or at the end of the text.
-/

namespace TerminalScript.Transcript

def Whole (bytes : List UInt8) : Prop :=
  ∀ byte ∈ bytes.head?, isContinuation byte = false

structure CharacterBytes (first : UInt8) (others : List UInt8) : Prop where
  begins : isContinuation first = false
  continues : ∀ byte ∈ others, isContinuation byte = true
  short : others.length ≤ 3
  broken : first = lineFeed → others = []

/-- Text in bytes: wherever one looks, at most three bytes continue a character, and after a line
feed a character begins. -/
structure Spelled (bytes : List UInt8) : Prop where
  whole : Whole bytes
  short : ∀ later, later <:+ bytes → (later.takeWhile isContinuation).length ≤ 3
  lines : ∀ later, lineFeed :: later <:+ bytes → Whole later

theorem isContinuation_ofNat {value : Nat} (bound : value < 256) :
    isContinuation (UInt8.ofNat value) = (128 ≤ value && value < 192) := by
  simp [isContinuation, UInt8.le_iff_toNat_le, UInt8.lt_iff_toNat_lt, Nat.mod_eq_of_lt bound]

theorem isContinuation_low (value : Nat) :
    isContinuation (UInt8.ofNat (value % 64 + 128)) = true := by
  rw [isContinuation_ofNat (by omega)]
  simp only [Bool.and_eq_true, decide_eq_true_eq]
  omega

theorem not_isContinuation_high {value : Nat} (low : 192 ≤ value) (bound : value < 256) :
    isContinuation (UInt8.ofNat value) = false := by
  rw [isContinuation_ofNat bound]
  simp only [Bool.and_eq_false_iff, decide_eq_false_iff_not]
  omega

theorem ne_lineFeed_high {value : Nat} (low : 192 ≤ value) (bound : value < 256) :
    UInt8.ofNat value ≠ lineFeed := by
  intro same
  have values := congrArg UInt8.toNat same
  rw [UInt8.toNat_ofNat_of_lt' bound] at values
  simp [lineFeed] at values
  omega

theorem characterBytes_of_high {lead : Nat} (low : 192 ≤ lead) (bound : lead < 256)
    (values : List Nat) (short : values.length ≤ 3) :
    CharacterBytes (UInt8.ofNat lead)
      (values.map fun value => UInt8.ofNat (value % 64 + 128)) where
  begins := not_isContinuation_high low bound
  continues := by
    intro byte member
    obtain ⟨value, -, rfl⟩ := List.mem_map.mp member
    exact isContinuation_low value
  short := by rwa [List.length_map]
  broken := fun broken => absurd broken (ne_lineFeed_high low bound)

theorem exists_characterBytes (c : Char) :
    ∃ first others, String.utf8EncodeChar c = first :: others ∧ CharacterBytes first others := by
  let value := c.val.toNat
  rw [String.utf8EncodeChar.eq_1]
  split
  · refine ⟨_, [], rfl, ?_, by simp, by simp, fun _ => rfl⟩
    rw [isContinuation_ofNat (by omega)]
    simp only [Bool.and_eq_false_iff, decide_eq_false_iff_not]
    omega
  · split
    · exact ⟨_, _, rfl, characterBytes_of_high (by omega) (by omega) [value] (by simp)⟩
    · split
      · exact ⟨_, _, rfl, characterBytes_of_high (by omega) (by omega)
          [value / 64, value] (by simp)⟩
      · exact ⟨_, _, rfl, characterBytes_of_high (by omega) (by omega)
          [value / 4096, value / 64, value] (by simp)⟩

theorem spelled_nil : Spelled [] where
  whole := by simp [Whole]
  short := by simp
  lines := by simp

theorem takeWhile_of_whole {bytes : List UInt8} (whole : Whole bytes) :
    bytes.takeWhile isContinuation = [] := by
  cases bytes with
  | nil => rfl
  | cons byte rest => simp [whole byte rfl]

/-- The end of some bytes that continue a character, with text after them. -/
theorem takeWhile_continuing {others bytes : List UInt8}
    (continues : ∀ byte ∈ others, isContinuation byte = true) (whole : Whole bytes) :
    (others ++ bytes).takeWhile isContinuation = others := by
  rw [List.takeWhile_append_of_pos continues, takeWhile_of_whole whole, List.append_nil]

theorem suffix_append_cases {later before bytes : List UInt8} (within : later <:+ before ++ bytes) :
    later <:+ bytes ∨ ∃ ending, ending <:+ before ∧ later = ending ++ bytes := by
  obtain ⟨start, joined⟩ := within
  rcases List.append_eq_append_iff.mp joined with ⟨ending, split, same⟩ | ⟨gap, _, split⟩
  · exact .inr ⟨ending, ⟨start, split.symm⟩, same⟩
  · exact .inl ⟨gap, split.symm⟩

theorem CharacterBytes.spelled {first : UInt8} {others bytes : List UInt8}
    (character : CharacterBytes first others) (spelled : Spelled bytes) :
    Spelled (first :: others ++ bytes) where
  whole := by simpa [Whole] using character.begins
  short := by
    intro later within
    rcases List.suffix_cons_iff.mp (List.cons_append ▸ within) with rfl | within
    · simp [character.begins]
    rcases suffix_append_cases within with after | ⟨ending, inside, rfl⟩
    · exact spelled.short later after
    · have continues : ∀ byte ∈ ending, isContinuation byte = true :=
        fun byte member => character.continues byte (inside.subset member)
      rw [takeWhile_continuing continues spelled.whole]
      exact inside.length_le.trans character.short
  lines := by
    intro later within
    rcases List.suffix_cons_iff.mp within with broken | within
    · obtain ⟨rfl, rfl⟩ := List.cons.inj broken
      rw [character.broken rfl]
      exact spelled.whole
    rcases suffix_append_cases within with after | ⟨ending, inside, joined⟩
    · exact spelled.lines later after
    · cases ending with
      | nil => exact spelled.lines later (joined ▸ List.suffix_refl bytes)
      | cons byte ending =>
          obtain ⟨rfl, _⟩ := List.cons.inj joined
          exact absurd (character.continues _ (inside.subset List.mem_cons_self)) (by decide)

theorem spelled_encode (text : String) : Spelled (Text.encode text) := by
  rw [Text.encode_eq]
  induction text.toList with
  | nil => exact spelled_nil
  | cons c rest ih =>
      obtain ⟨first, others, bytes, character⟩ := exists_characterBytes c
      rw [List.flatMap_cons, bytes]
      exact character.spelled ih

theorem whole_dropWhile (window later : List UInt8)
    (left : window.dropWhile isContinuation ≠ []) :
    Whole (window.dropWhile isContinuation ++ later) := by
  intro byte first
  have stopped := List.head?_dropWhile_not isContinuation window
  cases dropped : window.dropWhile isContinuation with
  | nil => exact absurd dropped left
  | cons stop rest =>
      rw [dropped] at first stopped
      obtain rfl : stop = byte := by simpa using first
      exact stopped

/-- At the end of text no character continues past three bytes that continue it. -/
theorem Spelled.whole_of_continuing {stream window later : List UInt8} (spelled : Spelled stream)
    (within : window ++ later <:+ stream) (continues : ∀ byte ∈ window, isContinuation byte = true)
    (long : 3 ≤ window.length) : Whole later := by
  intro byte first
  cases later with
  | nil => simp at first
  | cons next rest =>
      obtain rfl : next = byte := by simpa using first
      have short := spelled.short _ within
      rw [List.takeWhile_append_of_pos continues, List.takeWhile_cons] at short
      cases continued : isContinuation next with
      | false => rfl
      | true => simp [continued] at short; omega

/-- How a trim moves its cut within the bytes to be retained. -/
theorem extraCut_cases (retain : Nat) (window : List UInt8) :
    (∃ line rest, window = line ++ lineFeed :: rest ∧ line.length < retain / 2 ∧
      extraCut retain window = line.length + 1) ∨
    extraCut retain window = (window.takeWhile isContinuation).length := by
  unfold extraCut
  split
  · rename_i position found
    obtain ⟨within, feed, -⟩ := List.findIdx?_eq_some_iff_getElem.mp found
    obtain ⟨near, bound⟩ : position < retain / 2 ∧ position < window.length := by
      rw [List.length_take] at within
      omega
    have feed : window[position] = lineFeed := by simpa using feed
    have before : (window.take position).length = position := by
      rw [List.length_take]
      omega
    refine .inl ⟨window.take position, window.drop (position + 1), ?_, ?_, ?_⟩
    · rw [← feed, ← List.drop_eq_getElem_cons bound, List.take_append_drop]
    · rwa [before]
    · rw [before]
  · exact .inr rfl

/-- The cut of a trim comes before a character or at the end of the text, if three bytes or more
are to be retained. -/
theorem Spelled.whole_after_cut {stream window later : List UInt8} (spelled : Spelled stream)
    (within : window ++ later <:+ stream) (retain : Nat) (long : 3 ≤ window.length) :
    Whole ((window ++ later).drop (extraCut retain window)) := by
  rcases extraCut_cases retain window with ⟨line, rest, rfl, -, cut⟩ | cut
  · have ended : (line ++ lineFeed :: rest ++ later).drop (line.length + 1) = rest ++ later := by
      simp
    rw [cut, ended]
    refine spelled.lines _ (List.IsSuffix.trans ⟨line, ?_⟩ within)
    simp
  · have ended : (window ++ later).drop (window.takeWhile isContinuation).length =
        window.dropWhile isContinuation ++ later := by
      have joined := List.takeWhile_append_dropWhile (p := isContinuation) (l := window)
      calc (window ++ later).drop (window.takeWhile isContinuation).length
        _ = (window.takeWhile isContinuation ++ window.dropWhile isContinuation ++ later).drop
            (window.takeWhile isContinuation).length := by rw [joined]
        _ = window.dropWhile isContinuation ++ later := by rw [List.append_assoc, List.drop_left]
    rw [cut, ended]
    by_cases left : window.dropWhile isContinuation = []
    · rw [left, List.nil_append]
      exact spelled.whole_of_continuing within (List.dropWhile_eq_nil_iff.mp left) long
    · exact whole_dropWhile window later left

theorem Spelled.extraCut_le {stream window later : List UInt8} (spelled : Spelled stream)
    (within : window ++ later <:+ stream) (retain : Nat) :
    extraCut retain window ≤ max (retain / 2) 3 := by
  rcases extraCut_cases retain window with ⟨line, rest, -, near, cut⟩ | cut
  · omega
  · have short := spelled.short _ within
    have fewer : (window.takeWhile isContinuation).length ≤
        ((window ++ later).takeWhile isContinuation).length := by
      rw [List.takeWhile_append]
      split
      · simp; omega
      · exact Nat.le_refl _
    omega

end TerminalScript.Transcript
