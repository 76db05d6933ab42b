import TextAdventure.Main
import TextAdventure.Proofs.Action.Conservation
import TextAdventure.Proofs.Action.Descriptions
import TextAdventure.Proofs.Action.Exchanges
import TextAdventure.Proofs.Action.Journeys
import TextAdventure.Proofs.Action.WeightLimit
import TextAdventure.Proofs.Games
import TextAdventure.Proofs.Input.ActivationOrder
import TextAdventure.Proofs.Input.Denotations
import TextAdventure.Proofs.Input.Prepositions
import TextAdventure.Proofs.Input.Typeable
import TextAdventure.Proofs.OldMill.Games
import TextAdventure.Proofs.Registry.Contents
import TextAdventure.Proofs.Registry.Listings
import TextAdventure.Proofs.Rulebook.Turns
import TextAdventure.Proofs.Save.RoundTrip
import TextAdventure.Proofs.Soundness.Traps
import TextAdventure.Proofs.Soundness.Turns
import TextAdventure.Proofs.Stage.Answers
import TextAdventure.Proofs.Stage.Dialogs
import TextAdventure.Proofs.Stage.FailedLoads
import TextAdventure.Proofs.Stage.OnceOptions
import TextAdventure.Proofs.Stage.Phrasings
import TextAdventure.Proofs.Stage.SavedMoments
import TextAdventure.Proofs.Stage.Tellings
import TextAdventure.Proofs.Store.Interchange
import TextAdventure.Proofs.Terminal.Relays
import TextAdventure.Proofs.Vocabulary.Creation
import TextAdventure.Proofs.Input.BareCommands
import TextAdventure.Proofs.Input.Restyling
import TextAdventure.Store.Pathname
import TextAdventure.Proofs.Store.Pathnames
import TextAdventure.Proofs.Store.SaveNames
import TextAdventure.Proofs.Container.Histories
import TextAdventure.Proofs.Input.OwnWords
import TextAdventure.Proofs.Input.WholeNames
