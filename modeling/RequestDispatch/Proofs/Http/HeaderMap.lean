import Mathlib.Data.List.Basic
import Mathlib.Data.List.Induction
import RequestDispatch.Http.Response
import RequestDispatch.Proofs.LastSet

/-!
# Headers as a Map

The headers of a response are a list. Looking a header up takes the first one of its name, and
setting one takes away all of its name and appends the new one. That makes the list a map that does
not tell the case of ASCII letters apart: a look-up after a header has been set finds the value that
was set if the names are the same, and what it found before if they are not
(`Response.header?_setHeader`), and there are never two headers of one name
(`Response.distinct_setHeader`).

So after any number of headers have been set, a look-up finds the value that was set last under the
name (`Response.setHeaders_lastWriter`).
-/

namespace RequestDispatch

open Text

namespace Text

variable {a b : String}

theorem equalIgnoringCase_iff :
    equalIgnoringCase a b = true ↔ a.toList.map Char.toLower = b.toList.map Char.toLower :=
  beq_iff_eq

theorem equalIgnoringCase_comm (a b : String) :
    equalIgnoringCase a b = equalIgnoringCase b a :=
  Bool.eq_iff_iff.mpr (by rw [equalIgnoringCase_iff, equalIgnoringCase_iff, eq_comm])

/-- Texts that are equal ignoring case are equal to the same texts. -/
theorem equalIgnoringCase_congr (h : equalIgnoringCase a b = true) (text : String) :
    equalIgnoringCase a text = equalIgnoringCase b text := by
  rw [equalIgnoringCase, equalIgnoringCase_iff.mp h, equalIgnoringCase]

end Text

namespace Headers

/-- Headers of different names, the case of ASCII letters aside. -/
def Distinct (headers : Headers) : Prop :=
  headers.Pairwise fun first second => equalIgnoringCase first.1 second.1 = false

/-- The headers that do not have a name, the case of ASCII letters aside. -/
def others (headers : Headers) (name : String) : Headers :=
  headers.filter fun header => !equalIgnoringCase header.1 name

/-- A header is looked up among those that do not have another name. -/
theorem find?_others_of_ne {name other : String} (hne : equalIgnoringCase name other = false)
    (headers : Headers) : (headers.others name).find? other = headers.find? other := by
  -- a header of the name that is looked up does not have the other name too
  have hkept : ∀ header : String × String, equalIgnoringCase header.1 other = true →
      equalIgnoringCase header.1 name = false := by
    intro header hother
    rw [equalIgnoringCase_congr hother, equalIgnoringCase_comm]
    exact hne
  rw [find?, others, List.find?_filter, find?]
  congr 2
  funext header
  rcases hother : equalIgnoringCase header.1 other with _ | _
  · simp
  · simp [hkept header hother]

/-- A header is not found among those that do not have its name. -/
theorem find?_others_of_eq {name other : String} (heq : equalIgnoringCase name other = true)
    (headers : Headers) : (headers.others name).find? other = none := by
  rw [find?, Option.map_eq_none_iff, List.find?_eq_none]
  intro header hmem hother
  have hname : equalIgnoringCase header.1 name = false := by
    simpa using (List.mem_filter.mp hmem).2
  rw [equalIgnoringCase_congr hother, equalIgnoringCase_comm, heq] at hname
  cases hname

/-- Headers of different names are so still if one is appended and all others of its name are taken
away. -/
theorem Distinct.set {headers : Headers} (hdistinct : headers.Distinct) (header : String × String) :
    Distinct (headers.others header.1 ++ [header]) := by
  rw [Distinct, List.pairwise_append]
  refine ⟨hdistinct.filter _, List.pairwise_singleton _ header, ?_⟩
  intro other hother last hlast
  rw [List.mem_singleton.mp hlast]
  simpa using (List.mem_filter.mp hother).2

end Headers

namespace Response

variable {response : Response}

/-! ## Setting one header -/

theorem headers_setHeader (response : Response) (name value : String) :
    (response.setHeader name value).headers = response.headers.others name ++ [(name, value)] :=
  rfl

/-- After a header has been set, its name is looked up to its value, and other names are looked up
to what they were. -/
theorem header?_setHeader (response : Response) (name value other : String) :
    (response.setHeader name value).header? other =
      if equalIgnoringCase name other then some value else response.header? other := by
  rw [header?, headers_setHeader, Headers.find?, List.find?_append, Option.map_or,
    ← Headers.find?]
  rcases hname : equalIgnoringCase name other with _ | _
  · rw [Headers.find?_others_of_ne hname]
    simp [hname, header?]
  · rw [Headers.find?_others_of_eq hname]
    simp [hname]

theorem distinct_setHeader (hdistinct : response.headers.Distinct) (name value : String) :
    (response.setHeader name value).headers.Distinct :=
  hdistinct.set (name, value)

/-- Setting a header leaves the headers of other names as they are. -/
theorem others_setHeader (response : Response) (name value : String) :
    (response.setHeader name value).headers.others name = response.headers.others name := by
  have hown : equalIgnoringCase name name = true := equalIgnoringCase_iff.mpr rfl
  rw [headers_setHeader, Headers.others, List.filter_append, Headers.others, List.filter_filter]
  simp [hown]

/-! ## Setting headers one after another -/

/-- Set headers one after another. -/
def setHeaders (response : Response) (changes : Headers) : Response :=
  changes.foldl (fun response header => response.setHeader header.1 header.2) response

theorem setHeaders_concat (response : Response) (changes : Headers) (header : String × String) :
    response.setHeaders (changes ++ [header]) =
      (response.setHeaders changes).setHeader header.1 header.2 :=
  List.foldl_concat _ _ _ _

theorem distinct_setHeaders (hdistinct : response.headers.Distinct) (changes : Headers) :
    (response.setHeaders changes).headers.Distinct := by
  induction changes using List.reverseRecOn with
  | nil => exact hdistinct
  | append_singleton changes header ih =>
    rw [setHeaders_concat]
    exact distinct_setHeader ih header.1 header.2

/-- A name is looked up to the value that was set last under it, or else to what it was before. -/
theorem header?_setHeaders (response : Response) (changes : Headers) (name : String) :
    (response.setHeaders changes).header? name =
      ((changes.filter fun header => equalIgnoringCase header.1 name).getLast?.map (·.2)).or
        (response.header? name) :=
  lastSet_foldl_filter (fun response : Response => response.header? name)
    (fun response header => response.header?_setHeader header.1 header.2 name) changes response

/-- The header that was set last stands last, as it was set. -/
theorem getLast?_headers_setHeaders (response : Response) (changes : Headers) :
    (response.setHeaders changes).headers.getLast? =
      changes.getLast?.or response.headers.getLast? := by
  rcases List.eq_nil_or_concat changes with rfl | ⟨earlier, header, rfl⟩
  · rfl
  · rw [List.concat_eq_append, setHeaders_concat, headers_setHeader, List.getLast?_concat,
      List.getLast?_concat, Option.some_or]

/-! ## Responses from their beginning -/

/-- What a response begins with. -/
inductive Draft where
  /-- Plain text, and a header that says so. -/
  | text (body : String)
  /-- Markup, and a header that says so. -/
  | html (body : String)
  /-- Data, and a header that says so. -/
  | json (value : Json)
  /-- A body without any header. -/
  | bare (body : String)

namespace Draft

/-- The response that is begun. -/
def start (status : Nat) : Draft → Response
  | text body => .text status body
  | html body => .html status body
  | json value => .json status value
  | bare body => { status, headers := [], body }

/-- The format that a header names. -/
def format? : Draft → Option String
  | text _ => some "text/plain; charset=utf-8"
  | html _ => some "text/html; charset=utf-8"
  | json _ => some "application/json"
  | bare _ => none

/-- In the beginning there is at most one header, which names the format. -/
theorem headers_start (draft : Draft) (status : Nat) :
    (draft.start status).headers = (draft.format?.map (contentType, ·)).toList := by
  cases draft <;> rfl

theorem distinct_start (draft : Draft) (status : Nat) :
    (draft.start status).headers.Distinct := by
  rw [headers_start]
  cases draft.format? with
  | none => exact List.Pairwise.nil
  | some format => exact List.pairwise_singleton _ _

theorem header?_start (draft : Draft) (status : Nat) (name : String) :
    (draft.start status).header? name =
      if equalIgnoringCase contentType name then draft.format? else none := by
  rw [header?, headers_start]
  cases draft.format? with
  | none => simp [Headers.find?]
  | some format =>
    rcases hname : equalIgnoringCase contentType name with _ | _
    · simp [Headers.find?, hname]
    · simp [Headers.find?, hname]

end Draft

/-- The headers of a response form a map that does not tell the case of ASCII letters apart, and in
which the last writer wins. However a response is begun and whatever headers are then set, no two
headers have the same name; a name is looked up to the value that was set last under it, or else to
the format the response was begun with, if the name is that of the format's header; the header that
was set last stands last, spelled as it was set; and setting one more header leaves those of other
names as they are, in the same order. -/
theorem setHeaders_lastWriter (draft : Draft) (status : Nat) (changes : Headers) :
    ((draft.start status).setHeaders changes).headers.Distinct ∧
    (∀ name, ((draft.start status).setHeaders changes).header? name =
      ((changes.filter fun header => equalIgnoringCase header.1 name).getLast?.map (·.2)).or
        (if equalIgnoringCase contentType name then draft.format? else none)) ∧
    ((draft.start status).setHeaders changes).headers.getLast? =
      changes.getLast?.or (draft.format?.map (contentType, ·)) ∧
    ∀ name value,
      (((draft.start status).setHeaders changes).setHeader name value).headers.others name =
        ((draft.start status).setHeaders changes).headers.others name := by
  refine ⟨distinct_setHeaders (draft.distinct_start status) changes, ?_, ?_, ?_⟩
  · intro name
    rw [header?_setHeaders, Draft.header?_start]
  · rw [getLast?_headers_setHeaders, Draft.headers_start]
    cases draft.format? <;> rfl
  · intro name value
    exact others_setHeader _ name value

end Response

end RequestDispatch
