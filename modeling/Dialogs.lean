import Dialogs.Cli.Buttons
import Dialogs.Header
import Dialogs.Main
import Dialogs.Proofs.Members
import Dialogs.Proofs.WidgetFields
import Dialogs.Proofs.RecordFields
import Dialogs.Proofs.WindowFields
import Dialogs.Proofs.DialogMembers
import Dialogs.Proofs.DialogRoundTrip
import Dialogs.Proofs.DialogNormalForm
import Dialogs.Proofs.OutputLines
import Dialogs.Proofs.SessionReading
import Dialogs.Proofs.SessionCourse
import Dialogs.Proofs.EventStream
import Dialogs.Proofs.SessionVerdict
import Dialogs.Proofs.DialogGrammar
import Dialogs.Proofs.ClientScript
import Dialogs.Proofs.JsonLexemes
import Dialogs.Proofs.SessionPipe
import Dialogs.Proofs.JsonText
import Dialogs.Proofs.PrintedEvents
import Dialogs.Proofs.DocumentOrder
import Dialogs.Proofs.WidgetMaking
import Dialogs.Proofs.Validation
import Dialogs.Proofs.FilterText
import Dialogs.Proofs.FilterArgument
import Dialogs.Proofs.FilterPairing
import Dialogs.Proofs.IntegerText
import Dialogs.Proofs.FontText
import Dialogs.Proofs.ClosingEvent
import Dialogs.Proofs.ReplyReading
import Dialogs.Proofs.EventDocument
import Dialogs.Proofs.EventSelection
import Dialogs.Proofs.CommandArguments
import Dialogs.Proofs.HeaderReading
import Dialogs.Proofs.BackendListing
import Dialogs.Proofs.BuiltDialogs
import Dialogs.Proofs.FontGrammar
import Dialogs.Proofs.ConfigurationVariables
import Dialogs.Proofs.SettingsLayers
import Dialogs.Proofs.SessionDeadline
import Dialogs.Proofs.OptionReading
import Dialogs.Proofs.OptionOutcome
import Dialogs.Proofs.OptionSpelling
import Dialogs.Proofs.GlobalOptions
