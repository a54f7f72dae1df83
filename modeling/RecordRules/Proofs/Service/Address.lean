import RecordRules.Service.Route

/-
  The places of addresses without escapes and queries.

  Main declarations:
    * `Service.IsPlain`, and `Service.find?_of_isPlain`
    * `Service.segments_append`
    * `Service.find?_logs`, the address of the log of a batch
-/

namespace RecordRules

namespace Service

/- Text without the characters that have a meaning in an address. -/
def IsPlain (cs : List Char) : Prop :=
  ∀ c ∈ cs, c ≠ '%' ∧ c ≠ '?' ∧ c ≠ '#'

instance : DecidablePred IsPlain := fun cs =>
  inferInstanceAs (Decidable (∀ c ∈ cs, _))

theorem pathOf_of_isPlain
    {address : List Char}
    (hPlain : IsPlain address) :
    pathOf address = address := by
  unfold pathOf
  induction address with
  | nil => rfl
  | cons c rest ih =>
      have hFirst := (hPlain c List.mem_cons_self).2
      have hRest := ih fun other hOther =>
        hPlain other (List.mem_cons_of_mem c hOther)
      rw [List.takeWhile_cons_of_pos, hRest]
      simpa using hFirst

theorem unescaped_of_isPlain
    {path : List Char}
    (hPlain : IsPlain path) :
    unescaped path = path := by
  induction path with
  | nil => simp [unescaped]
  | cons c rest ih =>
      have hFirst := (hPlain c List.mem_cons_self).1
      have hRest := ih fun other hOther =>
        hPlain other (List.mem_cons_of_mem c hOther)
      rw [unescaped, hRest]
      intro a b more hEscape
      exact absurd hEscape hFirst

/- A plain address is looked up as it is. -/
theorem find?_of_isPlain
    {address : List Char}
    (hPlain : IsPlain address)
    (hSome : address ≠ []) :
    Route.find? address =
      (Route.ofPath? address).or
        (Route.ofPath? (withoutSlashes address)) := by
  unfold Route.find?
  rw [pathOf_of_isPlain hPlain, unescaped_of_isPlain hPlain]
  simp [hSome]

/- The address that records are sent to. -/
theorem find?_records :
    Route.find? "/records/validate".toList = some .record := by
  rw [find?_of_isPlain (by decide) (by decide)]
  rfl

/- The address that batches are sent to. -/
theorem find?_batches :
    Route.find? "/batches/validate".toList = some .batch := by
  rw [find?_of_isPlain (by decide) (by decide)]
  rfl

/- What stands before the first slash is the first segment. -/
theorem segments_append
    {segment : List Char}
    (hSegment : '/' ∉ segment)
    (rest : List Char) :
    segments (segment ++ '/' :: rest) = segment :: segments rest := by
  induction segment with
  | nil => rfl
  | cons c segment ih =>
      rw [List.mem_cons, not_or] at hSegment
      have hSlash : (c == '/') = false := by
        simpa using Ne.symm hSegment.1
      rw [List.cons_append, segments, hSlash, ih hSegment.2]
      rfl

/- The log of a batch is at an address made of its name. -/
theorem find?_logs
    {job : String}
    (hPlain : IsPlain job.toList)
    (hSlash : '/' ∉ job.toList)
    (hSome : job ≠ "") :
    Route.find? ("/batches/" ++ job ++ "/logs").toList =
      some (.log job) := by
  have hAddress :
      ("/batches/" ++ job ++ "/logs").toList =
        [] ++ '/' :: ("batches".toList ++
          '/' :: (job.toList ++ '/' :: "logs".toList)) := by
    simp
  have hWhole : IsPlain ("/batches/" ++ job ++ "/logs").toList := by
    intro c hMember
    simp only [String.toList_append, List.mem_append] at hMember
    rcases hMember with (hStart | hName) | hEnd
    · revert c
      decide
    · exact hPlain c hName
    · revert c
      decide
  have hSegments :
      segments ("/batches/" ++ job ++ "/logs").toList =
        ["".toList, "batches".toList, job.toList, "logs".toList] := by
    rw [hAddress, segments_append List.not_mem_nil,
      segments_append (by decide), segments_append hSlash]
    rfl
  rw [find?_of_isPlain hWhole]
  · unfold Route.ofPath?
    rw [hSegments]
    simp [Route.ofSegments?, hSome]
  · rw [hAddress]
    simp

end Service

end RecordRules
