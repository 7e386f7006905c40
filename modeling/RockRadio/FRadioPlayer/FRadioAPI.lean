import RockRadio.FRadioPlayer.Metadata
import RockRadio.Library.QueryString
import RockRadio.Network.SwiftyJSON
import RockRadio.Platform

/-!
# The search for artwork

For every value the stream sends, the player asks a search service for artwork. The value is cleaned
first, and written into the query of an address.

## Main results

* `search_of_request` — whatever a stream sends, the query of the address reads as the cleaned
  value, the very text that the player shows.
-/

namespace RockRadio

/-- The characters that `URLComponents` does not escape in the name or the value of a query item. -/
structure QueryItemCharacters where
  contains : Char → Bool
  ampersand : contains '&' = false
  equals : contains '=' = false
  percent : contains '%' = false

/-- `CharacterSet.urlQueryAllowed`, without the delimiters of a query. -/
def QueryItemCharacters.urlQueryAllowed : QueryItemCharacters where
  contains c := RockRadio.urlQueryAllowed c && c != '&' && c != '='
  ampersand := by decide
  equals := by decide
  percent := by decide

namespace FRadioAPI

variable (word : WordCharacters) (plain : QueryItemCharacters)

def cleanRawMetadataIfNeeded (rawValue : String) : String :=
  Metadata.replacingOccurrences word rawValue

/-- The query items of a search. -/
def queryItems (term : String) : List (List Char × List Char) :=
  [("term".toList, term.toList), ("entity".toList, "song".toList)]

/-- `getURL(with:)`. Components with a host and an absolute path always make an address. -/
def getURL (term : String) : Option String :=
  some ("https" ++ "://" ++ "itunes.apple.com" ++ "/search" ++ "?" ++
    String.ofList (QueryString.write plain.contains (queryItems term)))

/-- The address that `getArtwork(for:size:completionHandler:)` asks for a value, if any. -/
def request (metadata : String) : Option String :=
  let cleanMetadata := cleanRawMetadataIfNeeded word metadata
  if cleanMetadata = "" ∨ cleanMetadata = " - " then none else getURL plain cleanMetadata

/-- The address of the artwork in an answer. The size asked for stands in its name. -/
def artwork {NSNumber : Type} (size : ℤ) : JSON NSNumber → Option String
  | .dictionary parsedResult => do
    let .array results ← parsedResult.lookup "results" | none
    let results ← results.mapM fun
      | .dictionary result => some result
      | _ => none
    let .string artwork ← (← results.head?).lookup "artworkUrl100" | none
    if size ≠ 100 ∧ 0 < size then
      return artwork.replace "100x100" (toString size ++ "x" ++ toString size)
    else return artwork
  | _ => none

/-- What `getArtwork(for:size:completionHandler:)` completes with, where `dataTask` says what JSON
an address answers with, if it does. -/
def getArtwork {NSNumber URL : Type} (url : String → Option URL) (metadata : String) (size : ℤ)
    (dataTask : String → Option (JSON NSNumber)) : Option URL := do
  let json ← dataTask (← request word plain metadata)
  url (← artwork size json)

variable {word plain} {metadata term address : String}

theorem toList_getURL (h : getURL plain term = some address) : address.toList =
    "https://itunes.apple.com/search".toList ++
      '?' :: QueryString.write plain.contains (queryItems term) := by
  cases h
  simp only [String.toList_append, String.toList_ofList]
  rfl

/-- Whatever is searched for, the address has one query, which reads as the items. -/
theorem reads_getURL (h : getURL plain term = some address) :
    QueryString.path address.toList = "https://itunes.apple.com/search".toList ∧
      QueryString.items (QueryString.query address.toList) = some (queryItems term) := by
  have plainPath : '?' ∉ "https://itunes.apple.com/search".toList := by decide
  rw [toList_getURL h, QueryString.path_append, QueryString.query_append plainPath]
  constructor
  · exact PercentEncoding.takeWhile_eq_self_iff.mpr plainPath
  · exact QueryString.items_write plain.ampersand plain.equals plain.percent (List.cons_ne_nil _ _)

/-- A search asks for the cleaned value, which is what the player shows, and for nothing else that a
value might bring into the query. It is only made for a value of which something is left. -/
theorem search_of_request (h : request word plain metadata = some address) :
    QueryString.path address.toList = "https://itunes.apple.com/search".toList ∧
      QueryString.items (QueryString.query address.toList) =
        some (queryItems (Metadata.cleanMetadata word metadata)) ∧
      Metadata.Unannotated (Metadata.cleanMetadata word metadata).toList ∧
      Metadata.cleanMetadata word metadata ≠ "" ∧ Metadata.cleanMetadata word metadata ≠ " - " := by
  simp only [request] at h
  split at h
  · cases h
  · rename_i something
    obtain ⟨path, items⟩ := reads_getURL h
    exact ⟨path, items, Metadata.unannotated word metadata, not_or.mp something⟩

/-- The artwork of a value is that of the cleaned value. -/
theorem getArtwork_cleanMetadata {NSNumber URL : Type} (url : String → Option URL)
    (metadata : String) (size : ℤ) (dataTask : String → Option (JSON NSNumber)) :
    getArtwork word plain url (Metadata.cleanMetadata word metadata) size dataTask =
      getArtwork word plain url metadata size dataTask := by
  have again : cleanRawMetadataIfNeeded word (Metadata.cleanMetadata word metadata) =
      cleanRawMetadataIfNeeded word metadata :=
    Metadata.cleanMetadata_cleanMetadata word metadata
  simp only [getArtwork, request, again]

/-- An ampersand in a title stays part of the title. -/
theorem search_of_request_ampersand :
    QueryString.items (QueryString.query
        "https://itunes.apple.com/search?term=A%20%26%20B%20%20-%20C%3DD&entity=song".toList) =
      some (queryItems "A & B  - C=D") := by
  have cleaned : Metadata.cleanMetadata .ascii "A & B (Live) - C=D" = "A & B  - C=D" := by decide
  have asked : request .ascii .urlQueryAllowed "A & B (Live) - C=D" =
      some "https://itunes.apple.com/search?term=A%20%26%20B%20%20-%20C%3DD&entity=song" := by
    decide
  rw [← cleaned]
  exact (search_of_request asked).2.1

end FRadioAPI

end RockRadio
