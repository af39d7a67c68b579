import ServiceProbe.Proofs.Task.Bodies

/-!
# Writing and reading as one

The values of a type are written as JSON and read from it by a `Codec`. It is lawful if reading gives back what was
written, if a member stands for each part that is there and none for a part that is absent, and if a JSON value settles
when it is read and written again: done once more, this changes nothing.

A value that is read need not be the one that would be written. It may be an array, it may have members that mean
nothing, null may stand for what is absent, and a rule or a table of rules may be left out. Once it is written, all of
this is gone.

* `Codec.lawful` — the laws, from what is known of the parts;
* `BodyKind.lawful` — they hold of all bodies of submissions, and of the objects inside them;
* `BodyKind.round_trip` — so in a scrape what is absent is told from what is empty.
-/

namespace ServiceProbe

/-- How the values of a type are written as JSON and read from it, and the parts of which they consist, by name. -/
structure Codec (α : Type) where
  encode : α → Json
  decode : Decoder α
  parts : α → List (String × Option Json)

namespace Codec

variable {α : Type}

/-- A JSON value, read and written again. -/
def rewrite (codec : Codec α) (json : Json) : Decoded Json :=
  (codec.decode json).map codec.encode

/-- The laws of writing and reading. -/
structure Lawful (codec : Codec α) : Prop where
  /-- What was written is read as it was. -/
  reads : ∀ value, codec.decode (codec.encode value) = .ok value
  /-- There is a member for each part that is there, and no other one. -/
  written : ∀ value name,
    (codec.encode value).member? name = (Entries.find? name (codec.parts value)).join
  /-- What is accepted and written again is accepted, and written as it is. -/
  settles : ∀ json settled, codec.rewrite json = .ok settled → codec.rewrite settled = .ok settled

variable {codec : Codec α}

/-- A value is written in one way only, so that what is written is settled. -/
theorem settles_of_reads (reads : ∀ value, codec.decode (codec.encode value) = .ok value) {json settled : Json}
    (accepted : codec.rewrite json = .ok settled) : codec.rewrite settled = .ok settled := by
  obtain ⟨value, -, rfl⟩ := map_eq_ok_iff.1 accepted
  rw [rewrite, reads]
  rfl

/-- A codec is lawful if it reads what it writes, and writes parts of different names. -/
theorem lawful (reads : ∀ value, codec.decode (codec.encode value) = .ok value)
    (isWritten : ∀ value, codec.encode value = .object (presentEntries (codec.parts value)))
    (distinct : ∀ value, ((codec.parts value).map (·.1)).Nodup) : codec.Lawful where
  reads := reads
  written value name := by
    rw [isWritten, Json.member?]
    exact find?_presentEntries (distinct value) name
  settles _ _ accepted := settles_of_reads reads accepted

/-- Different values are never written alike. -/
theorem Lawful.injective (isLawful : codec.Lawful) : Function.Injective codec.encode := by
  intro value value' same
  have read := isLawful.reads value
  rw [same, isLawful.reads value'] at read
  exact (Except.ok.inj read).symm

end Codec

/-! ### Bodies and the objects inside them -/

/-- The bodies of submissions, and the objects that may be parts of them. -/
inductive BodyKind where
  | extractRule | scrapeOptions | scrapeRequest | crawlerOptions | crawlRequest | searchRequest | extractRequest

namespace BodyKind

/-- The values of a kind. -/
def Value : BodyKind → Type
  | extractRule => ExtractRule
  | scrapeOptions => ScrapeOptions
  | scrapeRequest => ScrapeRequest
  | crawlerOptions => CrawlerOptions
  | crawlRequest => CrawlRequest
  | searchRequest => SearchRequest
  | extractRequest => ExtractRequest

/-- How they are written and read. -/
def codec : (kind : BodyKind) → Codec kind.Value
  | extractRule => ⟨ExtractRule.encode, ExtractRule.decode, ExtractRule.parts⟩
  | scrapeOptions => ⟨ScrapeOptions.encode, ScrapeOptions.decode, ScrapeOptions.parts⟩
  | scrapeRequest => ⟨ScrapeRequest.encode, ScrapeRequest.decode, ScrapeRequest.parts⟩
  | crawlerOptions => ⟨CrawlerOptions.encode, CrawlerOptions.decode, CrawlerOptions.parts⟩
  | crawlRequest => ⟨CrawlRequest.encode, CrawlRequest.decode, CrawlRequest.parts⟩
  | searchRequest => ⟨SearchRequest.encode, SearchRequest.decode, SearchRequest.parts⟩
  | extractRequest => ⟨ExtractRequest.encode, ExtractRequest.decode, ExtractRequest.parts⟩

/-- The laws hold of every kind. -/
theorem lawful (kind : BodyKind) : kind.codec.Lawful := by
  cases kind with
  | extractRule =>
    exact Codec.lawful ExtractRule.decode_encode ExtractRule.encode_eq ExtractRule.distinct_parts
  | scrapeOptions =>
    exact Codec.lawful ScrapeOptions.decode_encode ScrapeOptions.encode_eq ScrapeOptions.distinct_parts
  | scrapeRequest =>
    exact Codec.lawful ScrapeRequest.decode_encode ScrapeRequest.encode_eq ScrapeRequest.distinct_parts
  | crawlerOptions =>
    exact Codec.lawful CrawlerOptions.decode_encode CrawlerOptions.encode_eq CrawlerOptions.distinct_parts
  | crawlRequest =>
    exact Codec.lawful CrawlRequest.decode_encode CrawlRequest.encode_eq CrawlRequest.distinct_parts
  | searchRequest =>
    exact Codec.lawful SearchRequest.decode_encode SearchRequest.encode_eq SearchRequest.distinct_parts
  | extractRequest =>
    exact Codec.lawful ExtractRequest.decode_encode ExtractRequest.encode_eq ExtractRequest.distinct_parts

end BodyKind

/-! ### Absent and empty parts -/

theorem encodeTexts_eq_empty_iff {texts : List String} : encodeTexts texts = .array [] ↔ texts = [] := by
  rw [encodeTexts, Json.array.injEq, List.map_eq_nil_iff]

namespace ScrapeRequest

variable (request : ScrapeRequest)

theorem member?_formats : request.encode.member? "formats" = request.formats.map encodeTexts :=
  BodyKind.scrapeRequest.lawful.written request "formats"

theorem member?_payload : request.encode.member? "payload" = request.options.map ScrapeOptions.encode :=
  BodyKind.scrapeRequest.lawful.written request "payload"

/-- No formats are not an empty list of them. -/
theorem formats_apart :
    (request.encode.member? "formats" = none ↔ request.formats = none) ∧
      (request.encode.member? "formats" = some (.array []) ↔ request.formats = some []) := by
  rw [member?_formats]
  cases request.formats with
  | none => simp
  | some texts => simp [encodeTexts_eq_empty_iff]

/-- No options are not options without rules. -/
theorem options_kept_apart :
    (request.encode.member? "payload" = none ↔ request.options = none) ∧
      (request.encode.member? "payload" = some (.object []) ↔ request.options = some {}) := by
  have noRules : (ScrapeOptions.encode {}) = .object [] := rfl
  have injective : Function.Injective ScrapeOptions.encode := BodyKind.scrapeOptions.lawful.injective
  rw [member?_payload, ← noRules]
  cases request.options with
  | none => simp
  | some options => simp [injective.eq_iff]

end ScrapeRequest

/-- **Bodies written and read.** Every body, and every object inside one, is read as it was written, with a member for
each part that is there. A JSON value that is accepted as one of them is written as a value that is accepted again, and
written as it is. So of a scrape without formats and one with an empty list of them, or without options and with no
rules in its options, each is read as what it was. -/
theorem BodyKind.round_trip :
    (∀ kind : BodyKind, kind.codec.Lawful) ∧
      ∀ request : ScrapeRequest,
        ((request.encode.member? "formats" = none ↔ request.formats = none) ∧
          (request.encode.member? "formats" = some (.array []) ↔ request.formats = some [])) ∧
        ((request.encode.member? "payload" = none ↔ request.options = none) ∧
          (request.encode.member? "payload" = some (.object []) ↔ request.options = some {})) :=
  ⟨BodyKind.lawful, fun request => ⟨request.formats_apart, request.options_kept_apart⟩⟩

end ServiceProbe
