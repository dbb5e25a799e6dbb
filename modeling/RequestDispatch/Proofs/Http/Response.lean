import RequestDispatch.Http.Response

/-!
# Adding Headers That Are Missing

`Headers.Has` says that there is a header of a name, whatever the case of its letters. A header that
is added because it is missing comes last, and nothing else about a response changes
(`Response.addMissingHeader_eq`): setting a header takes the headers of its name away, but there are
none. `Headers.Completes` says which of several candidates are added if each is added unless there
is one of its name by then, and these are what a response gets (`Response.exists_completes`). What
has been added is not missing any more, so adding headers twice is adding them once
(`Response.addMissingHeaders_of_has`).
-/

namespace RequestDispatch

open Text

namespace Headers

/-- There is a header of a name, the case of ASCII letters aside. -/
def Has (headers : Headers) (name : String) : Prop :=
  ∃ header ∈ headers, equalIgnoringCase header.1 name = true

instance (headers : Headers) (name : String) : Decidable (headers.Has name) :=
  inferInstanceAs (Decidable (∃ header ∈ headers, equalIgnoringCase header.1 name = true))

/-- A header, unless there is one of its name. -/
def missing (headers : Headers) (header : String × String) : Headers :=
  if headers.Has header.1 then [] else [header]

/-- Headers complete others by candidates: they are those of the candidates of whose name there is
no header before them. -/
structure Completes (headers candidates added : Headers) : Prop where
  /-- They are some of the candidates, in the same order. -/
  sublist : added.Sublist candidates
  /-- A candidate is added exactly if no header before it has its name. -/
  mem_iff : ∀ earlier header later, candidates = earlier ++ header :: later →
    (header ∈ added ↔ ¬ Has (headers ++ earlier.filter (· ∈ added)) header.1)

variable {headers others candidates added : Headers} {header : String × String} {name : String}

/-- There is a header of the name of each header that there is. -/
theorem has_of_mem (hmem : header ∈ headers) : headers.Has header.1 :=
  ⟨header, hmem, beq_self_eq_true _⟩

/-- A name that there is a header of is not lost if headers are added. -/
theorem Has.append (hhas : headers.Has name) (others : Headers) : Has (headers ++ others) name := by
  obtain ⟨header, hmem, hname⟩ := hhas
  exact ⟨header, List.mem_append_left others hmem, hname⟩

/-- No header is found by a name exactly if there is none of that name. -/
theorem find?_eq_none_iff : headers.find? name = none ↔ ¬ headers.Has name := by
  rw [find?, Option.map_eq_none_iff, List.find?_eq_none, Has, not_exists]
  simp only [not_and]

/-- A header that is there after all others have been asked for is the missing one. -/
theorem has_append_missing (headers : Headers) (header : String × String) :
    Has (headers ++ headers.missing header) header.1 := by
  rw [missing]
  split
  · next hhas => exact hhas.append []
  · exact has_of_mem (List.mem_append_right headers List.mem_cons_self)

/-! ## Completing headers -/

theorem Completes.nil (headers : Headers) : headers.Completes [] [] := by
  refine ⟨List.Sublist.refl [], ?_⟩
  intro earlier header later heq
  simp at heq

/-- A candidate of whose name there is a header is left out. -/
theorem Completes.cons_of_has (hcompletes : headers.Completes candidates added)
    (hhas : headers.Has header.1) (hnew : header ∉ candidates) :
    headers.Completes (header :: candidates) added := by
  have hout : header ∉ added := fun hmem => hnew (hcompletes.sublist.subset hmem)
  refine ⟨hcompletes.sublist.cons header, ?_⟩
  intro earlier other later heq
  rcases List.cons_eq_append_iff.mp heq with ⟨rfl, hfirst⟩ | ⟨earlier, rfl, hrest⟩
  · obtain rfl : other = header := (List.cons.inj hfirst).1
    exact iff_of_false hout (not_not_intro (hhas.append _))
  · rw [List.filter_cons_of_neg (by simpa using hout)]
    exact hcompletes.mem_iff earlier other later hrest

/-- A candidate of whose name there is no header is added, and counts for those after it. -/
theorem Completes.cons_of_not_has (hcompletes : Completes (headers ++ [header]) candidates added)
    (hmissing : ¬ headers.Has header.1) (hnew : header ∉ candidates) :
    headers.Completes (header :: candidates) (header :: added) := by
  refine ⟨hcompletes.sublist.cons_cons header, ?_⟩
  intro earlier other later heq
  rcases List.cons_eq_append_iff.mp heq with ⟨rfl, hfirst⟩ | ⟨earlier, rfl, hrest⟩
  · obtain rfl : other = header := (List.cons.inj hfirst).1
    simpa using hmissing
  · -- the candidates are different, so the first one does not count as one of the others
    have hne : ∀ candidate ∈ candidates, candidate ≠ header := by
      intro candidate hmem heq
      exact hnew (heq ▸ hmem)
    have hother : other ≠ header := hne other (by simp [hrest])
    have hfilter : earlier.filter (· ∈ header :: added) = earlier.filter (· ∈ added) := by
      apply List.filter_congr
      intro candidate hmem
      have hcandidate : candidate ≠ header := hne candidate (by simp [hrest, hmem])
      simp [hcandidate]
    have hiff := hcompletes.mem_iff earlier other later hrest
    rw [List.filter_cons_of_pos (by simp), hfilter, List.mem_cons, or_iff_right hother, hiff,
      List.append_assoc, List.singleton_append]

/-- Of the name of each candidate there is a header afterwards. -/
theorem Completes.has_of_mem (hcompletes : headers.Completes candidates added)
    (hmem : header ∈ candidates) : Has (headers ++ added) header.1 := by
  obtain ⟨earlier, later, hcandidates⟩ := List.append_of_mem hmem
  have hiff := hcompletes.mem_iff earlier header later hcandidates
  by_cases hadded : header ∈ added
  · exact Headers.has_of_mem (List.mem_append_right headers hadded)
  · -- a candidate is left out for a header before it
    obtain ⟨other, hother, hname⟩ := Decidable.not_not.mp (mt hiff.mpr hadded)
    refine ⟨other, ?_, hname⟩
    rcases List.mem_append.mp hother with hother | hother
    · exact List.mem_append_left added hother
    · exact List.mem_append_right headers (by simpa using (List.mem_filter.mp hother).2)

end Headers

namespace Response

variable (response : Response)

/-- A header that is missing is added after the others. -/
theorem addMissingHeader_eq (name value : String) :
    response.addMissingHeader name value =
      { response with headers := response.headers ++ response.headers.missing (name, value) } := by
  have hnone : (response.header? name).isNone = true ↔ ¬ response.headers.Has name :=
    Option.isNone_iff_eq_none.trans Headers.find?_eq_none_iff
  rw [addMissingHeader, Headers.missing]
  by_cases hhas : response.headers.Has name
  · rw [if_neg (fun hmissing => hnone.mp hmissing hhas), if_pos hhas, List.append_nil]
  · rw [if_pos (hnone.mpr hhas), if_neg hhas, setHeader]
    -- there is nothing to take away
    have hkept : response.headers.filter (fun header => !equalIgnoringCase header.1 name) =
        response.headers := by
      apply List.filter_eq_self.mpr
      intro header hmem
      simpa using fun hname => hhas ⟨header, hmem, hname⟩
    rw [hkept]

/-- Of different headers, those are added that complete the ones of a response. -/
theorem exists_completes {candidates : Headers} (hnodup : candidates.Nodup) :
    ∃ added, response.headers.Completes candidates added ∧
      response.addMissingHeaders candidates =
        { response with headers := response.headers ++ added } := by
  induction candidates generalizing response with
  | nil =>
    refine ⟨[], .nil response.headers, ?_⟩
    rw [List.append_nil]
    rfl
  | cons header candidates ih =>
    obtain ⟨hnew, hrest⟩ := List.nodup_cons.mp hnodup
    have hfirst : response.addMissingHeaders (header :: candidates) =
        (response.addMissingHeader header.1 header.2).addMissingHeaders candidates := rfl
    rw [hfirst, addMissingHeader_eq, Headers.missing]
    by_cases hhas : response.headers.Has header.1
    · obtain ⟨added, hcompletes, hadded⟩ := ih response hrest
      refine ⟨added, hcompletes.cons_of_has hhas hnew, ?_⟩
      rw [if_pos hhas, List.append_nil, hadded]
    · obtain ⟨added, hcompletes, hadded⟩ :=
        ih { response with headers := response.headers ++ [header] } hrest
      refine ⟨header :: added, hcompletes.cons_of_not_has hhas hnew, ?_⟩
      rw [if_neg hhas, hadded, List.append_assoc, List.singleton_append]

variable {response}

/-- A header of a name that there is a header of is not added. -/
theorem addMissingHeader_of_has {name : String} (hhas : response.headers.Has name)
    (value : String) : response.addMissingHeader name value = response := by
  rw [addMissingHeader_eq, Headers.missing, if_pos hhas, List.append_nil]

/-- Headers are not added to a response that has headers of all their names. -/
theorem addMissingHeaders_of_has {candidates : Headers}
    (hhas : ∀ header ∈ candidates, response.headers.Has header.1) :
    response.addMissingHeaders candidates = response := by
  induction candidates with
  | nil => rfl
  | cons header candidates ih =>
    obtain ⟨hfirst, hrest⟩ := List.forall_mem_cons.mp hhas
    rw [addMissingHeaders, List.foldl_cons, addMissingHeader_of_has hfirst]
    exact ih hrest

end Response

end RequestDispatch
