import RequestDispatch.Http.Request
import RequestDispatch.Proofs.Route.Generation
import RequestDispatch.Proofs.Text.Cut

/-!
# The Parts of a URI

A request reads three parts off its URI, each by a search of its own: the path ends at the first
question mark or number sign, the query string lies between the first question mark and the first
number sign, and the fragment follows the first number sign. All three belong to one way of taking
the URI apart. `UriParts` are the parts that a URI can have, with the marks that may not be in them;
a URI is made of its parts (`UriParts.text_ofUri`), and it is made of no other parts
(`UriParts.ofUri_text`). URL generation puts such parts together, so a request reads off a generated
URL what it was generated from (`Request.uri_eq_parts`).
-/

namespace RequestDispatch

open Text

/-! ## Cutting at a mark -/

namespace Text

/-- A text behind a mark, if there is one. -/
def behind (mark : Char) : Option String → String
  | none => ""
  | some text => String.singleton mark ++ text

variable {mark : Char}

@[simp]
theorem toList_behind (mark : Char) (rest? : Option String) :
    (behind mark rest?).toList = rest?.elim [] fun rest => mark :: rest.toList := by
  cases rest? <;> simp [behind]

theorem behind_eq_ite (mark : Char) (rest? : Option String) :
    behind mark rest? =
      if rest?.isSome then String.singleton mark ++ rest?.getD "" else "" := by
  cases rest? <;> rfl

/-- The first mark is not looked for in a text in which there is none. -/
theorem after?_append_of_not_mem {cs : List Char} (hcs : mark ∉ cs) (rest : List Char) :
    after? (· = mark) (cs ++ rest) = after? (· = mark) rest := by
  induction cs with
  | nil => rfl
  | cons c cs ih =>
    obtain ⟨hne, hmark⟩ := List.ne_and_not_mem_of_not_mem_cons hcs
    rw [List.cons_append, after?, if_neg (by simpa using hne.symm), ih hmark]

/-- Nothing is lost at the first mark. -/
theorem before_append_after? (mark : Char) (cs : List Char) :
    before (· = mark) cs ++ (after? (· = mark) cs).elim [] (mark :: ·) = cs := by
  induction cs with
  | nil => rfl
  | cons c cs ih =>
    by_cases hc : c = mark
    · simp [before, after?, hc]
    · simpa [before, after?, hc] using ih

theorem upTo_append_following? (mark : Char) (text : String) :
    upTo (· = mark) text ++ behind mark (following? (· = mark) text) = text := by
  rw [← String.toList_inj, String.toList_append, toList_behind, upTo, String.toList_ofList]
  refine Eq.trans ?_ (before_append_after? mark text.toList)
  rw [following?]
  cases after? (· = mark) text.toList <;> simp

/-- What stands before the first mark. -/
theorem upTo_append_behind {text : String} (hmark : mark ∉ text.toList) (rest? : Option String) :
    upTo (· = mark) (text ++ behind mark rest?) = text := by
  rw [upTo, ← String.toList_inj, String.toList_ofList, String.toList_append, toList_behind,
    before_append_of_not_mem hmark]
  cases rest? <;> simp [before]

/-- What stands behind the first mark. -/
theorem following?_append_behind {text : String} (hmark : mark ∉ text.toList)
    (rest? : Option String) : following? (· = mark) (text ++ behind mark rest?) = rest? := by
  rw [following?, String.toList_append, toList_behind, after?_append_of_not_mem hmark]
  cases rest? <;> simp [after?]

/-- Cutting at one kind of stops and then at another is cutting at both. -/
theorem upTo_upTo_of_or {first second both : Char → Bool}
    (hboth : ∀ c, both c = (first c || second c)) (text : String) :
    upTo first (upTo second text) = upTo both text := by
  rw [upTo, upTo, upTo, String.toList_ofList, before, before, before, List.takeWhile_takeWhile]
  congr 2
  funext c
  simp [hboth]

/-- A character comes before the first mark exactly if its first place is before that of the mark.
Where a character does not occur, its place is the end of the text. -/
theorem mem_upTo_iff_idxOf_lt {c : Char} (hne : c ≠ mark) (text : String) :
    c ∈ (upTo (· = mark) text).toList ↔ text.toList.idxOf c < text.toList.idxOf mark := by
  rw [upTo, String.toList_ofList, before]
  induction text.toList with
  | nil => simp
  | cons first rest ih =>
    by_cases hmark : first = mark
    · simp [hmark]
    · by_cases hc : first = c
      · simp [hc, hne]
      · simp [hmark, hc, Ne.symm hc, ih]

/-- Something stands behind a mark exactly if the mark occurs. -/
theorem following?_isSome_iff (text : String) :
    (following? (· = mark) text).isSome ↔ mark ∈ text.toList := by
  rw [following?, Option.isSome_map]
  induction text.toList with
  | nil => simp [after?]
  | cons first rest ih =>
    by_cases hmark : first = mark
    · simp [after?, hmark]
    · simp [after?, hmark, Ne.symm hmark, ih]

end Text

/-! ## Parts -/

/-- The parts of a URI. -/
@[ext]
structure UriParts where
  /-- The path. -/
  path : String
  /-- The query string, if there is one. -/
  query? : Option String
  /-- The fragment, if there is one. -/
  fragment? : Option String
  /-- A path has no mark that ends it. -/
  endsPath_eq_false : ∀ c ∈ path.toList, endsPath c = false
  /-- A query string has no mark that begins a fragment. -/
  sign_not_mem : ∀ query ∈ query?, '#' ∉ query.toList

namespace UriParts

/-- The URI that is made of parts. -/
def text (parts : UriParts) : String :=
  parts.path ++ behind '?' parts.query? ++ behind '#' parts.fragment?

/-- The path of a URI is cut at the number sign, and then at the question mark. -/
theorem upTo_endsPath (uri : String) :
    upTo endsPath uri = upTo (· = '?') (upTo (· = '#') uri) :=
  (upTo_upTo_of_or (fun _ => rfl) uri).symm

theorem sign_not_mem_upTo (uri : String) : '#' ∉ (upTo (· = '#') uri).toList := by
  rw [upTo, String.toList_ofList, before]
  intro hmem
  simpa using List.mem_takeWhile_imp hmem

/-- The parts of a URI. -/
def ofUri (uri : String) : UriParts where
  path := upTo endsPath uri
  query? := following? (· = '?') (upTo (· = '#') uri)
  fragment? := following? (· = '#') uri
  endsPath_eq_false c hc := by
    rw [upTo, String.toList_ofList, before] at hc
    simpa using List.mem_takeWhile_imp hc
  sign_not_mem query hquery := by
    -- the query string is a part of what is before the number sign
    have huri := upTo_append_following? '?' (upTo (· = '#') uri)
    rw [Option.mem_def.mp hquery] at huri
    have hmem := sign_not_mem_upTo uri
    rw [← huri, String.toList_append, toList_behind] at hmem
    simp only [List.mem_append, Option.elim_some, List.mem_cons, not_or] at hmem
    exact hmem.2.2

theorem path_ofUri (uri : String) : (ofUri uri).path = upTo endsPath uri := by
  rw [ofUri]

theorem query?_ofUri (uri : String) :
    (ofUri uri).query? = following? (· = '?') (upTo (· = '#') uri) := by
  rw [ofUri]

theorem fragment?_ofUri (uri : String) :
    (ofUri uri).fragment? = following? (· = '#') uri := by
  rw [ofUri]

/-- A URI is made of its parts. -/
theorem text_ofUri (uri : String) : (ofUri uri).text = uri := by
  rw [text, path_ofUri, query?_ofUri, fragment?_ofUri, upTo_endsPath, upTo_append_following?,
    upTo_append_following?]

/-- A URI is made of no other parts. -/
theorem ofUri_text (parts : UriParts) : ofUri parts.text = parts := by
  have hpath (c : Char) (hc : endsPath c = true) : c ∉ parts.path.toList := by
    intro hmem
    exact absurd (hc.symm.trans (parts.endsPath_eq_false c hmem)) (by decide)
  -- there is no number sign before the fragment's
  have hbefore : '#' ∉ (parts.path ++ behind '?' parts.query?).toList := by
    rw [String.toList_append, toList_behind, List.mem_append, not_or]
    refine ⟨hpath '#' (by decide), ?_⟩
    rcases hquery : parts.query? with _ | query
    · simp
    · simpa using parts.sign_not_mem query hquery
  have hsign : upTo (· = '#') parts.text = parts.path ++ behind '?' parts.query? :=
    upTo_append_behind hbefore parts.fragment?
  apply UriParts.ext
  · rw [path_ofUri, upTo_endsPath, hsign, upTo_append_behind (hpath '?' (by decide))]
  · rw [query?_ofUri, hsign, following?_append_behind (hpath '?' (by decide))]
  · rw [fragment?_ofUri, text, following?_append_behind hbefore]

/-- A text that is left out if it is empty. -/
def given? (text : String) : Option String := if text = "" then none else some text

@[simp]
theorem getD_given? (text : String) : (given? text).getD "" = text := by
  unfold given?
  split
  · rename_i hempty
    exact hempty.symm
  · rfl

end UriParts

/-! ## Generated URLs -/

namespace Pattern

theorem marked_eq_behind (mark : Char) (text : String) :
    marked (String.singleton mark) text = behind mark (UriParts.given? text) := by
  unfold marked UriParts.given?
  by_cases hempty : text = "" <;> simp [hempty, behind]

/-- URL generation makes a URL of parts. -/
theorem exists_build_eq_text {pattern : Pattern} {params : Params} {url : String}
    (hurl : pattern.build params "" "" = .ok url) (hplain : ∀ c ∈ url.toList, endsPath c = false)
    {query : String} (hquery : '#' ∉ query.toList) (fragment : String) :
    ∃ parts : UriParts, pattern.build params query fragment = .ok parts.text ∧
      parts.path = url ∧ parts.query?.getD "" = query ∧ parts.fragment?.getD "" = fragment := by
  obtain ⟨hmissing, htext⟩ := build_eq_ok_iff.mp hurl
  rw [marked_empty, marked_empty, String.append_empty, String.append_empty] at htext
  -- a text that is left out if it is empty is an absent part
  let parts : UriParts :=
    { path := url
      query? := UriParts.given? query
      fragment? := UriParts.given? fragment
      endsPath_eq_false := hplain
      sign_not_mem := by
        intro given hgiven
        rw [← UriParts.getD_given? query, Option.mem_def.mp hgiven] at hquery
        exact hquery }
  refine ⟨parts, ?_, rfl, UriParts.getD_given? query, UriParts.getD_given? fragment⟩
  rw [build_eq_ok_iff]
  refine ⟨hmissing, ?_⟩
  show url ++ behind '?' (UriParts.given? query) ++ behind '#' (UriParts.given? fragment) = _
  rw [← marked_eq_behind, ← marked_eq_behind, htext]
  rfl

end Pattern

/-! ## Reading parts off a request -/

namespace Request

variable (request : Request)

theorem path_eq_ofUri : request.path = (UriParts.ofUri request.uri).path := by
  rw [path, UriParts.path_ofUri]

theorem query_eq_ofUri : request.query = (UriParts.ofUri request.uri).query?.getD "" := by
  rw [query, beforeFragment, UriParts.query?_ofUri]

theorem fragment_eq_ofUri :
    request.fragment = (UriParts.ofUri request.uri).fragment?.getD "" := by
  rw [fragment, UriParts.fragment?_ofUri]

theorem endsPath_of_mem_path {c : Char} (hc : c ∈ request.path.toList) : endsPath c = false := by
  rw [path_eq_ofUri] at hc
  exact (UriParts.ofUri request.uri).endsPath_eq_false c hc

theorem sign_not_mem_query : '#' ∉ request.query.toList := by
  rw [query_eq_ofUri]
  rcases hquery : (UriParts.ofUri request.uri).query? with _ | query
  · simp
  · exact (UriParts.ofUri request.uri).sign_not_mem query hquery

/-- There is a query string exactly if a question mark comes before every number sign. -/
theorem isSome_query?_iff (uri : String) :
    (UriParts.ofUri uri).query?.isSome ↔ uri.toList.idxOf '?' < uri.toList.idxOf '#' := by
  rw [UriParts.query?_ofUri, following?_isSome_iff, mem_upTo_iff_idxOf_lt (by decide)]

theorem isSome_fragment?_iff (uri : String) :
    (UriParts.ofUri uri).fragment?.isSome ↔ '#' ∈ uri.toList := by
  rw [UriParts.fragment?_ofUri, following?_isSome_iff]

/-- A URI is split without loss, and generated URLs are split into what they were generated from. It
is the path, then the query string behind a question mark, if one occurs before every number sign,
and then the fragment behind a number sign, if one occurs. The path has neither of the two, and the
query string no number sign. A URL without these marks from which a longer one is generated, with a
query string that has no number sign and with any fragment, is its path again, and the two are read
off it as they were given. -/
theorem uri_eq_parts :
    request.uri = request.path ++
        (if request.uri.toList.idxOf '?' < request.uri.toList.idxOf '#' then
          "?" ++ request.query else "") ++
        (if '#' ∈ request.uri.toList then "#" ++ request.fragment else "") ∧
      ('?' ∉ request.path.toList ∧ '#' ∉ request.path.toList ∧ '#' ∉ request.query.toList) ∧
      ∀ (pattern : Pattern) (params : Params) (url : String),
        pattern.build params "" "" = .ok url → '?' ∉ url.toList → '#' ∉ url.toList →
        ∀ query fragment : String, '#' ∉ query.toList →
          ∃ full, pattern.build params query fragment = .ok full ∧
            let sent : Request := { request with uri := full }
            sent.path = url ∧ sent.query = query ∧ sent.fragment = fragment := by
  refine ⟨?_, ⟨?_, ?_, request.sign_not_mem_query⟩, ?_⟩
  · have hquery : behind '?' (UriParts.ofUri request.uri).query? =
        if request.uri.toList.idxOf '?' < request.uri.toList.idxOf '#' then
          "?" ++ request.query else "" := by
      rw [behind_eq_ite, query_eq_ofUri]
      simp only [isSome_query?_iff]
      -- the mark is the same, written as a text
      rfl
    have hfragment : behind '#' (UriParts.ofUri request.uri).fragment? =
        if '#' ∈ request.uri.toList then "#" ++ request.fragment else "" := by
      rw [behind_eq_ite, fragment_eq_ofUri]
      simp only [isSome_fragment?_iff]
      rfl
    rw [← hquery, ← hfragment, path_eq_ofUri]
    exact (UriParts.text_ofUri request.uri).symm
  · exact fun hmark => absurd (request.endsPath_of_mem_path hmark) (by decide)
  · exact fun hsign => absurd (request.endsPath_of_mem_path hsign) (by decide)
  · intro pattern params url hurl hmark hsign query fragment hquery
    have hplain : ∀ c ∈ url.toList, endsPath c = false := by
      intro c hc
      have hcMark : c ≠ '?' := fun heq => hmark (heq ▸ hc)
      have hcSign : c ≠ '#' := fun heq => hsign (heq ▸ hc)
      simp [endsPath, hcMark, hcSign]
    obtain ⟨parts, hfull, hpath, hpartsQuery, hpartsFragment⟩ :=
      Pattern.exists_build_eq_text hurl hplain hquery fragment
    refine ⟨parts.text, hfull, ?_⟩
    intro sent
    rw [path_eq_ofUri, query_eq_ofUri, fragment_eq_ofUri, UriParts.ofUri_text]
    exact ⟨hpath, hpartsQuery, hpartsFragment⟩

/-- Marks in a query string and in a fragment, and a fragment that is generated without a query
string. -/
theorem uri_eq_parts_marks :
    ∃ (pattern : Pattern) (full other : String), Pattern.compile "/p/%sku%" = .ok pattern ∧
      pattern.build (.ofList [("sku", "x")]) "" "" = .ok "/p/x" ∧
      '?' ∉ "/p/x".toList ∧ '#' ∉ "/p/x".toList ∧ '#' ∉ "a?b/".toList ∧ '#' ∉ "".toList ∧
      pattern.build (.ofList [("sku", "x")]) "a?b/" "c#d?" = .ok full ∧
      Request.path { uri := full } = "/p/x" ∧ Request.query { uri := full } = "a?b/" ∧
      Request.fragment { uri := full } = "c#d?" ∧
      pattern.build (.ofList [("sku", "x")]) "" "?" = .ok other ∧
      Request.path { uri := other } = "/p/x" ∧ Request.query { uri := other } = "" ∧
      Request.fragment { uri := other } = "?" := by
  let pattern : Pattern :=
    { source := "/p/%sku%"
      tokens := .literal ['/', 'p', '/'] (.placeholder "sku" .done)
      catchAll := false }
  have hurl : pattern.build (.ofList [("sku", "x")]) "" "" = .ok "/p/x" := by decide +kernel
  have hmark : '?' ∉ "/p/x".toList := by decide
  have hsign : '#' ∉ "/p/x".toList := by decide
  obtain ⟨-, -, hread⟩ := uri_eq_parts { uri := "" }
  obtain ⟨full, hfull, hpath, hquery, hfragment⟩ :=
    hread pattern _ "/p/x" hurl hmark hsign "a?b/" "c#d?" (by decide)
  obtain ⟨other, hother, hotherPath, hotherQuery, hotherFragment⟩ :=
    hread pattern _ "/p/x" hurl hmark hsign "" "?" (by decide)
  exact ⟨pattern, full, other, by decide +kernel, hurl, hmark, hsign, by decide, by decide, hfull,
    hpath, hquery, hfragment, hother, hotherPath, hotherQuery, hotherFragment⟩

end Request

end RequestDispatch
