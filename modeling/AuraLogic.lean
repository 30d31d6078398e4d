import AuraLogic.TransitionSystem
import AuraLogic.JsNumber
import AuraLogic.Models
import AuraLogic.OrderCancel
import AuraLogic.TicketAutoClose
import AuraLogic.ScriptHttp
import AuraLogic.DeliveryResult
import AuraLogic.ScriptDelivery
import AuraLogic.Response
import AuraLogic.OrderView
import AuraLogic.ConfigEditor
import AuraLogic.NumberLiteral
import AuraLogic.InvoiceToken
import AuraLogic.SyncRoundTrip
import AuraLogic.OrderHandlers
import AuraLogic.MarkdownEditor
import AuraLogic.SmsService
import AuraLogic.ConfigEditorSession
import AuraLogic.DeliveryExamples
