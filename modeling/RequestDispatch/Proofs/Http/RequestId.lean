import RequestDispatch.Http.Request
import RequestDispatch.Proofs.LastSet

/-!
# Identifiers That Come with a Request

A header of a certain name brings the identifier of a request, if its value can be read
(`Headers.brought?`). One would expect a request to have the identifier that was brought last
(`Headers.broughtLast`), and headers that bring none to have no influence. But every header of the
name decides anew about the identifier, so that the last one does so for good
(`Request.id_addHeaders`): if its value cannot be read, the identifier is made up, even if an
earlier header brought one. A request has the identifier that was brought last in all other cases,
and only in these (`Request.id_addHeaders_eq_broughtLast_iff`).
-/

namespace RequestDispatch

open Text

namespace Headers

/-- Whether a header has the name of those that bring an identifier. -/
def isForId (header : String × String) : Bool := equalIgnoringCase header.1 requestIdHeader

/-- The identifier that a header brings: what its value is without the white space around it, if the
header has the name and the value can be read. -/
def brought? (header : String × String) : Option Ulid :=
  if isForId header then (Ulid.parse (trim header.2)).toOption else none

/-- The identifier that the last header brings that brings one; a made-up one if none does. -/
def broughtLast (headers : Headers) : RequestId :=
  (headers.filterMap brought?).getLast?.elim .generated .given

variable {header : String × String} {headers : Headers}

/-- The identifier in the value of a header of the name is the one that the header brings, or is
made up. -/
theorem ofHeader_of_isForId (hname : isForId header = true) :
    RequestId.ofHeader header.2 = (brought? header).elim .generated .given := by
  rw [RequestId.ofHeader, brought?, if_pos hname]
  rcases Ulid.parse (trim header.2) with fault | ulid <;> rfl

/-- Only headers of the name matter to what was brought. -/
theorem filterMap_brought?_filter (headers : Headers) :
    (headers.filter isForId).filterMap brought? = headers.filterMap brought? := by
  have hbrought : (fun header => if isForId header then brought? header else none) = brought? := by
    ext header : 1
    by_cases hname : isForId header = true
    · rw [if_pos hname]
    · rw [if_neg hname, brought?, if_neg hname]
  rw [List.filterMap_filter, hbrought]

/-- If the last header of the name brings an identifier, that is the one that was brought last. -/
theorem broughtLast_of_brought? {last : String × String} {ulid : Ulid}
    (hlast : (headers.filter isForId).getLast? = some last) (hulid : brought? last = some ulid) :
    broughtLast headers = .given ulid := by
  obtain ⟨earlier, hsplit⟩ := List.getLast?_eq_some_iff.mp hlast
  rw [broughtLast, ← filterMap_brought?_filter, hsplit, List.filterMap_append,
    List.filterMap_cons_some hulid, List.filterMap_nil, List.getLast?_concat]
  rfl

/-- A made-up identifier was brought last exactly if no header brings one. -/
theorem broughtLast_eq_generated_iff :
    broughtLast headers = .generated ↔ ∀ header ∈ headers, brought? header = none := by
  rw [broughtLast, ← List.filterMap_eq_nil_iff]
  rcases hlast : (headers.filterMap brought?).getLast? with _ | ulid
  · exact iff_of_true rfl (List.getLast?_eq_none_iff.mp hlast)
  · refine iff_of_false (fun heq => by cases heq) ?_
    intro hnil
    rw [hnil] at hlast
    cases hlast

end Headers

namespace Request

open Headers

/-- Add headers one after another. -/
def addHeaders (request : Request) (headers : Headers) : Request :=
  headers.foldl (fun request header => request.addHeader header.1 header.2) request

/-- The last header of the name decides about the identifier. -/
theorem id_addHeaders (request : Request) (headers : Headers) :
    (request.addHeaders headers).id =
      ((headers.filter isForId).getLast?.map fun header => .ofHeader header.2).getD request.id := by
  have hafter : ∀ (request : Request) (header : String × String),
      some (request.addHeader header.1 header.2).id =
        if isForId header then some (RequestId.ofHeader header.2) else some request.id := by
    intro request header
    rw [← apply_ite some]
    rfl
  have hlast := lastSet_foldl_filter (fun request : Request => some request.id) hafter headers
    request
  rw [Option.or_some] at hlast
  exact Option.some.inj hlast

/-- The identifier of a request that headers have been added to is the one that the last header of
the name brings, or else is made up. It is the one that was brought last exactly if the last header
of the name brings one or none does; and if it is not, it is made up. -/
theorem id_addHeaders_eq_broughtLast_iff (method : Method) (uri : String) (headers : Headers) :
    (({ method, uri : Request }).addHeaders headers).id =
      ((headers.filter isForId).getLast?.bind brought?).elim .generated .given ∧
    ((({ method, uri : Request }).addHeaders headers).id = broughtLast headers ↔
      ∀ last ∈ (headers.filter isForId).getLast?, brought? last = none →
        ∀ header ∈ headers, brought? header = none) ∧
    ((({ method, uri : Request }).addHeaders headers).id = broughtLast headers ∨
      (({ method, uri : Request }).addHeaders headers).id = .generated) := by
  have hid : (({ method, uri : Request }).addHeaders headers).id =
      ((headers.filter isForId).getLast?.bind brought?).elim .generated .given := by
    rw [id_addHeaders]
    rcases hlast : (headers.filter isForId).getLast? with _ | last
    · rfl
    · have hname : isForId last = true :=
        (List.mem_filter.mp (List.mem_of_getLast? hlast)).2
      rw [Option.map_some, Option.getD_some, Option.bind_some, ofHeader_of_isForId hname]
  refine ⟨hid, ?_⟩
  rw [hid]
  rcases hlast : (headers.filter isForId).getLast? with _ | last
  · -- no header has the name, so none brings an identifier
    have hnone : broughtLast headers = .generated := by
      rw [broughtLast, ← filterMap_brought?_filter, List.getLast?_eq_none_iff.mp hlast]
      rfl
    simp [hnone]
  · rcases hulid : brought? last with _ | ulid
    · -- the last header of the name cannot be read, so that any identifier brought before is lost
      rw [Option.bind_some, hulid, Option.elim_none, eq_comm, broughtLast_eq_generated_iff]
      simp [hulid]
    · rw [broughtLast_of_brought? hlast hulid, Option.bind_some, hulid]
      simp [hulid]

/-- An identifier that was brought is lost if a header of the name that cannot be read comes after
it. -/
theorem id_addHeaders_lost :
    (({ uri := "/" } : Request).addHeaders
      [("x-request-id", "01ARZ3NDEKTSV4RRFFQ69G5FAV"), ("x-request-id", "not-a-ulid")]).id ≠
    broughtLast
      [("x-request-id", "01ARZ3NDEKTSV4RRFFQ69G5FAV"), ("x-request-id", "not-a-ulid")] := by
  decide +kernel

end Request

end RequestDispatch
