import AuthGate.Gate.PublicAddress
import AuthGate.Proofs.Url.Absolute

/-! The address that a client used when a base of all addresses is configured. Nothing that the client
says changes it. The base is kept as it is written, so the address leads to the server that has been
configured, and below its path, just if the base is written as an absolute URI. -/
namespace AuthGate.PublicAddress
open Text

variable {config : GateConfig} {text : String} {received uri : Uri}

private theorem pathAndQuery_of_normal (normal : uri.Normal) :
    pathAndQuery uri = uri.path ++ Uri.queryText uri.query? := by
  obtain ⟨target, present, written⟩ := normal.written
  rw [pathAndQuery, present]
  exact written

/-- With a configured base the address of a request is the base, the path and the query, whatever the
request says. -/
theorem requestedUri_of_base {external : ExternalConfig} (configured : external.baseUrl = some text)
    (tls : Bool) (headers : Headers) (normal : uri.Normal) :
    (ofConfig external tls).requestedUri headers uri =
      trimSlashes text ++ uri.path ++ Uri.queryText uri.query? := by
  rw [String.append_assoc, ← pathAndQuery_of_normal normal, requestedUri, ofConfig, configured]
  rfl

/-- The address of a request belongs to the configured page just if the base has no more than a scheme, an authority
and the path of the page. -/
theorem requestedUri_continues_iff (valid : config.validate = .ok ())
    (configured : config.external.baseUrl = some text) (tls : Bool)
    (normalized : received.normalize = .ok uri) :
    ∃ url, Url.IsPage text url ∧ IsTrimmed text (trimSlashes text) ∧
      ∀ headers,
        (ofConfig config.external tls).requestedUri headers uri =
            trimSlashes text ++ uri.path ++ Uri.queryText uri.query? ∧
          (url.ContinuedBy uri ((ofConfig config.external tls).requestedUri headers uri) ↔
            url.WrittenAs (trimSlashes text)) := by
  obtain ⟨url, page⟩ := GateConfig.isPage_of_problems (GateConfig.problems_of_validate valid)
    (.base configured)
  have trimmed : IsTrimmed text (trimSlashes text) := isTrimmed_dropEndWhile text
  have normal := Uri.normal_of_normalize normalized
  refine ⟨url, page, trimmed, ?_⟩
  intro headers
  have shown := requestedUri_of_base configured tls headers normal
  exact ⟨shown, by rw [shown, Url.continuedBy_iff page trimmed normal]⟩

/-- A gate whose base has capitals, a port that goes without saying and slashes at its end. -/
def proper : GateConfig where
  routes := [{ pathBase := "/", server := "http://a" }]
  external := { baseUrl := some "HTTPS://u@H:443/b//", trustForwarded := true }

theorem requestedUri_continues_iff_proper : ∃ url, proper.validate = .ok () ∧
    Url.IsPage "HTTPS://u@H:443/b//" url ∧
    Uri.normalize (.origin ⟨"/x/../a", some ""⟩) = .ok (.origin ⟨"/a", some ""⟩) ∧
    ∀ headers, (ofConfig proper.external true).requestedUri headers (.origin ⟨"/a", some ""⟩) =
        "HTTPS://u@H:443/b/a?" ∧
      url.ContinuedBy (.origin ⟨"/a", some ""⟩) "HTTPS://u@H:443/b/a?" := by
  have valid : proper.validate = .ok () := by decide +kernel
  have normalized : Uri.normalize (.origin ⟨"/x/../a", some ""⟩) = .ok (.origin ⟨"/a", some ""⟩) := by
    decide +kernel
  obtain ⟨url, page, _, each⟩ := requestedUri_continues_iff valid rfl true normalized
  have path : url.path = "/b//" := by
    have seen : (Url.parse "HTTPS://u@H:443/b//").toOption.map (·.path) = some "/b//" := by
      decide +kernel
    rw [page.read] at seen
    exact Option.some.inj seen
  have short : IsTrimmed url.path "/b" := path ▸ ⟨⟨2, by decide⟩, by decide⟩
  have scheme : Uri.IsScheme "HTTPS" :=
    ⟨⟨'H', by decide, by decide⟩, List.all_eq_true.mp (by decide)⟩
  have written : url.WrittenAs "HTTPS://u@H:443/b" :=
    ⟨"HTTPS", "u@H:443", "/b", short, by decide, scheme, by decide⟩
  have base : trimSlashes "HTTPS://u@H:443/b//" = "HTTPS://u@H:443/b" := by decide
  refine ⟨url, valid, page, normalized, fun headers => ?_⟩
  obtain ⟨shown, continues⟩ := each headers
  rw [base] at shown continues
  have address : (ofConfig proper.external true).requestedUri headers (.origin ⟨"/a", some ""⟩) =
      "HTTPS://u@H:443/b/a?" := shown.trans (by decide)
  exact ⟨address, address ▸ continues.mpr written⟩

/-- A gate whose base has a query. -/
def querying : GateConfig where
  routes := [{ pathBase := "/", server := "http://a" }]
  external := { baseUrl := some "https://h?x" }

/-- The path of a request gets into the query of the base. -/
theorem querying_not_continued : ∃ url, querying.validate = .ok () ∧ Url.IsPage "https://h?x" url ∧
    Uri.normalize (.origin ⟨"/a", none⟩) = .ok (.origin ⟨"/a", none⟩) ∧
    ∀ headers, (ofConfig querying.external false).requestedUri headers (.origin ⟨"/a", none⟩) =
        "https://h?x/a" ∧
      Uri.splitQuery "https://h?x/a" = ("https://h", some "x/a") ∧
      ¬ url.ContinuedBy (.origin ⟨"/a", none⟩) "https://h?x/a" := by
  have valid : querying.validate = .ok () := by decide +kernel
  have normalized : Uri.normalize (.origin ⟨"/a", none⟩) = .ok (.origin ⟨"/a", none⟩) := by
    decide +kernel
  have normal := Uri.normal_of_normalize normalized
  obtain ⟨url, page⟩ := GateConfig.isPage_of_problems (GateConfig.problems_of_validate valid)
    (.base rfl)
  have trimmed : IsTrimmed "https://h?x" "https://h?x" := ⟨⟨0, by decide⟩, by decide⟩
  have base : trimSlashes "https://h?x" = "https://h?x" := by decide
  have shape : "https://h?x" ++ (Uri.origin ⟨"/a", none⟩).path ++
      Uri.queryText (Uri.origin ⟨"/a", none⟩).query? = "https://h?x/a" := by decide
  refine ⟨url, valid, page, normalized, fun headers => ⟨?_, by decide, ?_⟩⟩
  · rw [requestedUri_of_base rfl false headers normal, base, shape]
  · intro continued
    rw [← shape, Url.continuedBy_iff page trimmed normal] at continued
    exact absurd (continued.inside page '?' (by decide)) (by decide)

end AuthGate.PublicAddress
