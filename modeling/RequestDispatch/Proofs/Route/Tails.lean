import RequestDispatch.Proofs.Route.Missing
import RequestDispatch.Proofs.Route.RoundTrip

/-!
# Tails Behind Generated URLs

A pattern that catches all also matches what lies below the URLs that are generated from it. The
tail may hold anything, also text that looks like the pattern's own literals. For patterns whose
placeholders stand for whole segments this does not disturb what is bound, provided that no group
was dropped: the groups have taken all they can, and no value can grow beyond the slash with which
the tail begins. `Pattern.captures_text_append` says so of whatever a path may end with, and
`Pattern.captures_build_tail` of a URL with and without a tail.
-/

namespace RequestDispatch

open Route

namespace Pattern

variable {pattern : Pattern} {params : Params}

/-- A path may only end with something that begins with a slash, if with anything. -/
theorem atEnd_cons_of_ne_slash (catchAll : Bool) {c : Char} (hc : c ≠ '/') (rest : List Char) :
    atEnd catchAll (c :: rest) = none := by
  simp [atEnd, mayEnd, isTail, hc]

/-- What is written without dropping a group binds the values that were written, whatever the path
ends with behind it. -/
theorem captures_text_append (hseg : pattern.tokens.isSegmented)
    (hmissing : (pattern.written params).missing = [])
    (hcut : (pattern.written params).cut = false)
    (hvalues : ∀ entry ∈ pattern.writtenValues params, IsSegment entry.2)
    {path : String} {ending : List Char}
    (hpath : path.toList = (pattern.written params).text ++ ending)
    (hending : mayEnd pattern.catchAll ending = true) :
    pattern.captures path = some (paramsOf ((pattern.writtenValues params).map fun entry =>
      (entry.1, entry.2.toList))) := by
  rw [written_eq] at hmissing hcut hpath
  have hleft : atEnd pattern.catchAll ending = some [] := if_pos hending
  have hfirst := firstOf_text_write hseg hmissing hvalues hleft
    (fun c rest hc => atEnd_cons_of_ne_slash _ hc rest) (fun h => by rw [hcut] at h; cases h)
  rw [captures_eq_map_firstDerivation?, firstDerivation?_eq_firstOf, hpath, hfirst]
  rfl

/-- A catch-all discards the tail behind a generated URL, whatever it holds: the URL is matched
with and without the tail, and both times exactly the written values are captured. -/
theorem captures_build_tail (pattern : Pattern) (params : Params) (url tail : String)
    (hcatch : pattern.catchAll = true) (hseg : pattern.tokens.isSegmented)
    (hbuild : pattern.build params "" "" = .ok url)
    (hcut : (pattern.written params).cut = false)
    (hvalues : ∀ entry ∈ pattern.writtenValues params, IsSegment entry.2)
    (htail : '\n' ∉ tail.toList) :
    ∃ captured, pattern.captures (url ++ "/" ++ tail) = some captured ∧
      pattern.captures url = some captured ∧
      ∀ name value, captured.get? name = some value ↔
        (name, value) ∈ pattern.writtenValues params := by
  have hmissing := (build_eq_ok_iff.1 hbuild).1
  have hurl := toList_of_build_eq_ok hbuild
  have hwhole : url.toList = (pattern.written params).text ++ [] := by
    rw [hurl, List.append_nil]
  have hbelow : (url ++ "/" ++ tail).toList =
      (pattern.written params).text ++ '/' :: tail.toList := by
    simp [hurl]
  have hended : mayEnd pattern.catchAll ('/' :: tail.toList) = true := by
    simp [mayEnd, hcatch, isTail, htail]
  refine ⟨_, captures_text_append hseg hmissing hcut hvalues hbelow hended,
    captures_text_append hseg hmissing hcut hvalues hwhole rfl, ?_⟩
  exact get?_paramsOf_writtenValues hvalues

/-- A tail that repeats the literals of the pattern and its groups, and one of slashes only. -/
theorem captures_build_tail_repeated :
    ∃ pattern params captured,
      compile "/%a%/by/%b%(/at/%c%)(/*)" = .ok pattern ∧
      params = .ofList [("a", "x"), ("b", "y"), ("c", "z")] ∧
      pattern.catchAll = true ∧ pattern.tokens.isSegmented ∧
      pattern.build params "" "" = .ok "/x/by/y/at/z" ∧
      (pattern.written params).cut = false ∧
      (∀ entry ∈ pattern.writtenValues params, IsSegment entry.2) ∧
      '\n' ∉ "by/w/at/v".toList ∧ '\n' ∉ "//".toList ∧
      pattern.captures "/x/by/y/at/z/by/w/at/v" = some captured ∧
      pattern.captures "/x/by/y/at/z///" = some captured ∧
      pattern.captures "/x/by/y/at/z" = some captured ∧
      ∀ name value, captured.get? name = some value ↔
        (name, value) ∈ [("a", "x"), ("b", "y"), ("c", "z")] := by
  let pattern : Pattern :=
    { source := "/%a%/by/%b%(/at/%c%)(/*)"
      tokens := .literal ['/'] (.placeholder "a" (.literal ['/', 'b', 'y', '/']
        (.placeholder "b" (.group (.literal ['/', 'a', 't', '/'] (.placeholder "c" .done)) .done))))
      catchAll := true }
  let params : Params := .ofList [("a", "x"), ("b", "y"), ("c", "z")]
  have hbuild : pattern.build params "" "" = .ok "/x/by/y/at/z" := by decide +kernel
  have hcut : (pattern.written params).cut = false := by decide +kernel
  have hvalues : ∀ entry ∈ pattern.writtenValues params, IsSegment entry.2 := by decide +kernel
  obtain ⟨captured, hrepeated, hurl, hparams⟩ := captures_build_tail pattern params _ "by/w/at/v"
    rfl (by decide) hbuild hcut hvalues (by decide)
  obtain ⟨other, hslashes, hother, -⟩ := captures_build_tail pattern params _ "//"
    rfl (by decide) hbuild hcut hvalues (by decide)
  obtain rfl : captured = other := Option.some.inj (hurl.symm.trans hother)
  exact ⟨pattern, params, captured, by decide +kernel, rfl, rfl, by decide, hbuild, hcut, hvalues,
    by decide, by decide, hrepeated, hslashes, hurl, hparams⟩

end Pattern

end RequestDispatch
