import GraphFacade.Document.Loading
import GraphFacade.Document.Resolution
import GraphFacade.Document.Title
import GraphFacade.Endpoint.Extraction
import GraphFacade.Settings
import GraphFacade.Types.Assembly

/-!
# From documents to facades

The whole way: titles, references, endpoints, types.
-/

namespace GraphFacade

namespace Building

/-- Settings are only looked at when a document's base is asked for. -/
abbrev LazySettings := Except Fault Settings

def checkObject : Json -> Except Fault Json
  | .dict entries => .ok (.dict entries)
  | _ => .error .wrongKind

/-- The endpoints of a document; a base in the settings takes the place of its own. -/
def endpoints (settings : LazySettings) (document : Json) (base : Option Json) :
    Run EndpointSet := do
  let document <- MonadExcept.ofExcept (checkObject document)
  let document <- MonadExcept.ofExcept (Title.assignAll document)
  let resolved <- MonadExcept.ofExcept (Document.resolve document)
  let base <-
    match base with
    | some base => pure (some base)
    | none => do
        let settings <- MonadExcept.ofExcept settings
        pure (settings.baseUrl.map Json.text)
  resolved.endpoints base

def facade (settings : LazySettings) (document : Json) : Run Facade := do
  Assembly.single (<- endpoints settings document none)

/-- The endpoints of documents under namespaces; a namespace given again replaces the first. -/
def endpointsOfEach (settings : LazySettings) :
    List (String × Run Json) -> Run (List (String × EndpointSet))
  | [] => return []
  | (realm, load) :: rest => do
      let found <- endpoints settings (<- load) none
      let others <- endpointsOfEach settings rest
      return (realm, found) :: others

def joinedFacade (settings : LazySettings) (documents : List (String × Run Json)) :
    Run Facade := do
  Assembly.join (<- endpointsOfEach settings (Entries.ofList documents))

end Building

end GraphFacade
