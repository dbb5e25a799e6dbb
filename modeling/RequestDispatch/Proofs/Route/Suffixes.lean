import RequestDispatch.Proofs.Route.Generation
import RequestDispatch.Proofs.Text.Cut
import RequestDispatch.Route.Basic

/-!
# Routing URLs with a Query String and a Fragment

URL generation puts a query string and a fragment behind a URL, and routing cuts the URI of a
request at its first question mark. What is left of the URI is all that routing reads of it
(`Route.value_parse_eq_upTo`), so it matters what the cut leaves of the two suffixes. If there is
a query string, nothing (`Pattern.upTo_url_of_query`). A fragment without a query string before it
stays, up to a question mark of its own (`Pattern.upTo_url_of_fragment`). Hence a query string
never changes how a request is routed, and a fragment alone can (`Route.parse_url_suffixes`).
-/

namespace RequestDispatch

open Route Text

/-! ## What the cut leaves of the suffixes -/

namespace Pattern

variable {url : String}

private theorem toList_upTo_mark_append (hmark : '?' ∉ url.toList) (rest : String) :
    (upTo (· = '?') (url ++ rest)).toList = url.toList ++ before (· = '?') rest.toList := by
  rw [upTo, String.toList_ofList, String.toList_append, before_append_of_not_mem hmark]

/-- The cut is at the mark of the query string, and whatever follows the URL is cut off. Without
a query string and a fragment there is nothing to cut off. -/
theorem upTo_url_of_query (hmark : '?' ∉ url.toList) {query fragment : String}
    (hquery : query ≠ "" ∨ fragment = "") :
    upTo (· = '?') (url ++ (marked "?" query ++ marked "#" fragment)) = url := by
  have hcut : before (· = '?') (marked "?" query ++ marked "#" fragment).toList = [] := by
    by_cases hempty : query = ""
    · have hfragment : fragment = "" := hquery.resolve_left (not_not_intro hempty)
      rw [hempty, hfragment]
      rfl
    · have hmarked : (marked "?" query).toList = '?' :: query.toList := by
        simp [marked, hempty]
      rw [String.toList_append, hmarked, List.cons_append, before_cons_self]
  apply String.toList_injective
  rw [toList_upTo_mark_append hmark, hcut, List.append_nil]

/-- A fragment without a query string before it is cut at its own first question mark, if it has
one, and is left whole otherwise. -/
theorem upTo_url_of_fragment (hmark : '?' ∉ url.toList) {fragment : String}
    (hfragment : fragment ≠ "") :
    upTo (· = '?') (url ++ (marked "?" "" ++ marked "#" fragment)) =
      url ++ ("#" ++ upTo (· = '?') fragment) := by
  have hmarked : (marked "?" "" ++ marked "#" fragment).toList = '#' :: fragment.toList := by
    simp [marked, hfragment]
  have hcut : before (· = '?') ('#' :: fragment.toList) =
      '#' :: before (· = '?') fragment.toList := rfl
  apply String.toList_injective
  rw [toList_upTo_mark_append hmark, hmarked, hcut]
  simp [upTo]

end Pattern

/-! ## Routing -/

namespace Route

variable (route : Route) (request : Request)

/-- Of the URI of a request, routing reads only the part before the first question mark. -/
theorem value_parse_eq_upTo (uri : String) :
    (route.parse { request with uri }).value =
      ((route.parse { request with uri := upTo (· = '?') uri }).value.1,
        { (route.parse { request with uri := upTo (· = '?') uri }).value.2 with uri }) := by
  have hurl : Request.url { request with uri } =
      Request.url { request with uri := upTo (· = '?') uri } := by
    rw [Request.url, Request.url, upTo_upTo]
  have hpath : Request.routedPath? { request with uri } =
      Request.routedPath? { request with uri := upTo (· = '?') uri } := by
    simp only [Request.routedPath?, hurl]
  rw [parse, parse, hpath]
  cases Request.routedPath? { request with uri := upTo (· = '?') uri } with
  | none =>
    -- the URL is also what the error reports
    simp [hurl]
  | some path =>
    cases hcaptures : route.pattern.captures path with
    | none => simp [hcaptures]
    | some captured => simp [hcaptures, Request.route]

/-- A URL that was generated with a query string is routed like the URL without it, whether or
not a fragment follows: with the same result, and the same request but for the URI. A fragment
without a query string is not cut off. Up to its first question mark it counts to the URL, and
the request is routed like one for the longer URL. -/
theorem parse_url_suffixes (params : Params) (query fragment url : String)
    (hurl : (route.url params "" "").value = .ok url) (hmark : '?' ∉ url.toList) :
    ∃ full, (route.url params query fragment).value = .ok full ∧
      (query ≠ "" ∨ fragment = "" →
        (route.parse { request with uri := full }).value =
          ((route.parse { request with uri := url }).value.1,
            { (route.parse { request with uri := url }).value.2 with uri := full })) ∧
      (query = "" → fragment ≠ "" →
        let seen := url ++ ("#" ++ upTo (· = '?') fragment)
        (route.parse { request with uri := full }).value =
          ((route.parse { request with uri := seen }).value.1,
            { (route.parse { request with uri := seen }).value.2 with uri := full })) := by
  obtain ⟨hmissing, htext⟩ := Pattern.build_eq_ok_iff.1 hurl
  rw [Pattern.marked_empty, Pattern.marked_empty, String.append_empty,
    String.append_empty] at htext
  have hfull : (route.url params query fragment).value =
      .ok (url ++ (Pattern.marked "?" query ++ Pattern.marked "#" fragment)) := by
    refine Pattern.build_eq_ok_iff.2 ⟨hmissing, ?_⟩
    rw [htext, String.append_assoc]
  refine ⟨_, hfull, ?_, ?_⟩
  · intro hquery
    rw [value_parse_eq_upTo, Pattern.upTo_url_of_query hmark hquery]
  · rintro rfl hfragment
    rw [value_parse_eq_upTo, Pattern.upTo_url_of_fragment hmark hfragment]

/-- The URL of a product with a query string, and with a fragment and no query string. -/
theorem parse_url_suffixes_product :
    ∃ (route : Route) (full other : String), Pattern.compile "/p/%sku%" = .ok route.pattern ∧
      (route.url (.ofList [("sku", "x")]) "" "").value = .ok "/p/x" ∧ '?' ∉ "/p/x".toList ∧
      (route.url (.ofList [("sku", "x")]) "utm=1" "reviews").value = .ok full ∧
      (route.parse { uri := full }).value =
        ((route.parse { uri := "/p/x" }).value.1,
          { (route.parse { uri := "/p/x" }).value.2 with uri := full }) ∧
      (route.url (.ofList [("sku", "x")]) "" "reviews?all").value = .ok other ∧
      (route.parse { uri := other }).value =
        ((route.parse { uri := "/p/x#reviews" }).value.1,
          { (route.parse { uri := "/p/x#reviews" }).value.2 with uri := other }) := by
  let pattern : Pattern :=
    { source := "/p/%sku%"
      tokens := .literal ['/', 'p', '/'] (.placeholder "sku" .done)
      catchAll := false }
  let route : Route := { pattern, defaults := ∅ }
  let params : Params := .ofList [("sku", "x")]
  have hurl : (route.url params "" "").value = .ok "/p/x" := by decide +kernel
  have hmark : '?' ∉ "/p/x".toList := by decide
  obtain ⟨full, hfull, hsame, -⟩ :=
    route.parse_url_suffixes { uri := "" } params "utm=1" "reviews" "/p/x" hurl hmark
  obtain ⟨other, hother, -, hlonger⟩ :=
    route.parse_url_suffixes { uri := "" } params "" "reviews?all" "/p/x" hurl hmark
  refine ⟨route, full, other, by decide +kernel, hurl, hmark, hfull, hsame (by decide), hother, ?_⟩
  exact hlonger rfl (by decide)

/-- A route does not match the URL that it has itself generated with a fragment. -/
theorem parse_url_fragment_noMatch :
    ∃ route : Route, Pattern.compile "/news" = .ok route.pattern ∧
      (route.url ∅ "" "").value = .ok "/news" ∧ (∀ c ∈ "/news".toList, c ≠ '?' ∧ c ≠ '#') ∧
      (route.parse { uri := "/news" }).value.1 = .ok .matched ∧
      (route.url ∅ "" "top").value = .ok "/news#top" ∧
      (route.parse { uri := "/news#top" }).value.1 = .ok .noMatch := by
  let pattern : Pattern :=
    { source := "/news", tokens := .literal ['/', 'n', 'e', 'w', 's'] .done, catchAll := false }
  have hmarks : ∀ c ∈ "/news".toList, c ≠ '?' ∧ c ≠ '#' := by simp
  refine ⟨{ pattern, defaults := ∅ }, ?_, ?_, hmarks, ?_, ?_, ?_⟩ <;> decide +kernel

end Route

end RequestDispatch
