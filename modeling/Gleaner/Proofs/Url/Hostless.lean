import Gleaner.Proofs.Url.Scheme

/-! # Links without a host

A link that has neither a scheme nor a network location takes both from the page it stands on, whatever
its path, query and fragment are: behind a network location a path is rendered from the root, so that the
URL it comes to is read with the same location again. What is absolute then stays on every other page
(`absolute_keeps_host`). -/

namespace Gleaner.Url

theorem schemeOf_of_bare {url : List Char} (h : schemeOf url [] = []) (scheme : List Char) :
    schemeOf url scheme = scheme := by
  rw [schemeOf, (behindScheme_of_schemeOf h).1]

theorem split_of_isAbsolute {url : String} (h : isAbsolute url = .ok true) :
    split url.toList = .ok (partsOf url.toList []) :=
  split_eq_ok_iff.mpr ⟨(isAbsolute_eq_true_iff.mp h).1, rfl⟩

section Hostless

variable {base link : String}

theorem join_hostless (hbase : isAbsolute base = .ok true) (hscheme : schemeOf link.toList [] = [])
    (hlocation : locationOf link.toList = []) :
    ∃ url, join base.toList link.toList = .ok url ∧ schemeOf url [] = schemeOf base.toList [] ∧
      locationOf url = locationOf base.toList := by
  obtain ⟨-, -, hhost⟩ := isAbsolute_eq_true_iff.mp hbase
  by_cases hempty : link.toList = []
  · refine ⟨base.toList, ?_, rfl, rfl⟩
    unfold join
    rw [if_neg fun h => hhost (by rw [h]; rfl), if_pos hempty]
    rfl
  have hcheck : checkLocation (locationOf link.toList) = .ok () := by
    rw [hlocation]
    rfl
  rcases join_reads hbase hempty hcheck with ⟨hother, -⟩ | ⟨-, url, hjoin, hread, hnetloc⟩
  · exact absurd (schemeOf_of_bare hscheme _) hother
  · rw [if_pos hlocation] at hnetloc
    exact ⟨url, hjoin, hread, hnetloc⟩

theorem absolute_hostless (hbase : isAbsolute base = .ok true)
    (hscheme : schemeOf link.toList [] = []) (hlocation : locationOf link.toList = []) :
    ∃ url, absolute link base = .ok url ∧ schemeOf url.toList [] = schemeOf base.toList [] ∧
      locationOf url.toList = locationOf base.toList := by
  have hlink : isAbsolute link = .ok false := by
    rw [isAbsolute_eq, hscheme, hlocation]
    rfl
  have hne : base ≠ "" := by
    rintro rfl
    cases hbase
  obtain ⟨url, hjoin, hread⟩ := join_hostless hbase hscheme hlocation
  refine ⟨.ofList url, ?_, by rwa [String.toList_ofList]⟩
  rw [absolute_eq_join hlink hne, hjoin]
  rfl

/-- **A link without scheme and network location leads to the host of its page**, and a link that has
become absolute is not changed by another page. -/
theorem absolute_keeps_host (hbase : isAbsolute base = .ok true) (link : String) :
    (∀ r, split link.toList = .ok r → r.scheme = [] → r.netloc = [] →
      ∃ url b u, absolute link base = .ok url ∧ isAbsolute url = .ok true ∧
        split base.toList = .ok b ∧ split url.toList = .ok u ∧
        u.scheme = b.scheme ∧ u.netloc = b.netloc) ∧
    ∀ page url, absolute link page = .ok url → isAbsolute url = .ok true →
      ∀ page', absolute url page' = .ok url := by
  constructor
  · intro r hlink hscheme hlocation
    obtain ⟨-, rfl⟩ := split_eq_ok_iff.mp hlink
    obtain ⟨url, habsolute, hread, hnetloc⟩ := absolute_hostless hbase hscheme hlocation
    have hurl : isAbsolute url = .ok true := by
      rw [isAbsolute_eq_true_iff, hread, hnetloc]
      exact isAbsolute_eq_true_iff.mp hbase
    exact ⟨url, _, _, habsolute, hurl, split_of_isAbsolute hbase, split_of_isAbsolute hurl, hread,
      hnetloc⟩
  · intro page url _ hurl page'
    exact absolute_of_isAbsolute hurl page'

end Hostless

/-- A link that climbs above the root, past empty segments. -/
theorem absolute_keeps_host_above_root :
    isAbsolute "https://shop.test/list/a" = .ok true ∧
    split "../../../b//./c/..".toList = .ok { path := "../../../b//./c/..".toList } ∧
    ∃ url u, absolute "../../../b//./c/.." "https://shop.test/list/a" = .ok url ∧
      isAbsolute url = .ok true ∧ split url.toList = .ok u ∧ u.scheme = "https".toList ∧
      u.netloc = "shop.test".toList ∧ ∀ page, absolute url page = .ok url := by
  have hbase : isAbsolute "https://shop.test/list/a" = .ok true := rfl
  have hlink : split "../../../b//./c/..".toList =
      .ok { path := "../../../b//./c/..".toList } := rfl
  obtain ⟨hhost, hstays⟩ := absolute_keeps_host hbase "../../../b//./c/.."
  obtain ⟨url, b, u, habsolute, hurl, hread, hread', hscheme, hnetloc⟩ := hhost _ hlink rfl rfl
  obtain rfl := (split_eq_ok_iff.mp hread).2
  exact ⟨hbase, hlink, url, u, habsolute, hurl, hread', hscheme, hnetloc,
    hstays _ url habsolute hurl⟩

end Gleaner.Url
