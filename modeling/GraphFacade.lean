import GraphFacade.Main
import GraphFacade.Types.Answer
import GraphFacade.Proofs.Document.Sharing
import GraphFacade.Proofs.Document.Settling
import GraphFacade.Proofs.Types.Failing
import GraphFacade.Proofs.Types.Faithfulness
import GraphFacade.Proofs.Types.Clashes
import GraphFacade.Proofs.Types.Composition
import GraphFacade.Proofs.Types.Naming
import GraphFacade.Proofs.Types.Separation
import GraphFacade.Proofs.Types.Queries
import GraphFacade.Proofs.Types.JoinClashes
import GraphFacade.Proofs.Types.Lockstep
import GraphFacade.Proofs.Types.Reordering
import GraphFacade.Proofs.Types.Merging
import GraphFacade.Proofs.Schema.Reading
import GraphFacade.Proofs.Schema.Labelling
import GraphFacade.Proofs.Schema.Trees
import GraphFacade.Proofs.Endpoint.Placing
import GraphFacade.Proofs.Endpoint.Carrying
import GraphFacade.Proofs.Endpoint.Describing
import GraphFacade.Proofs.Types.Coming
import GraphFacade.Proofs.Types.Stability
import GraphFacade.Proofs.Types.Totality
import GraphFacade.Proofs.Types.Assembling
import GraphFacade.Proofs.Types.Definitions
import GraphFacade.Proofs.Types.Sides
import GraphFacade.Proofs.Endpoint.Operations
import GraphFacade.Proofs.Schema.Ending
import GraphFacade.Proofs.Document.Ending
import GraphFacade.Proofs.Types.Losing
import GraphFacade.Proofs.Types.Expanding
import GraphFacade.Proofs.Types.Spelling
import GraphFacade.Proofs.Types.Members
import GraphFacade.Proofs.Endpoint.Paths
import GraphFacade.Proofs.Endpoint.Segments
import GraphFacade.Proofs.Endpoint.Cookies
import GraphFacade.Proofs.Endpoint.Parts
import GraphFacade.Proofs.Text.Numerals
import GraphFacade.Proofs.Document.Pointers
import GraphFacade.Proofs.Endpoint.Overriding
import GraphFacade.Proofs.Reserved
import GraphFacade.Proofs.Types.Reserving
import GraphFacade.Proofs.Endpoint.FallbackIds
import GraphFacade.Proofs.Endpoint.Answering
import GraphFacade.Proofs.Document.Loading
import GraphFacade.Proofs.Types.Fitting
import GraphFacade.Proofs.Types.Coherence
