import SecureDialogues.Communication.ChannelRemoval
import SecureDialogues.Communication.ContactIntroduction
import SecureDialogues.Communication.SignedMessages
import SecureDialogues.Containers.ConnectStorageListener
import SecureDialogues.Protocol.KeyAgreement
import SecureDialogues.Protocol.Callbacks
import SecureDialogues.Protocol.SequenceCounters
import SecureDialogues.Protocol.IncomingNumbers
import SecureDialogues.Protocol.Authentication
import SecureDialogues.Protocol.ContactDiscovery
import SecureDialogues.Protocol.ControlTotality
import SecureDialogues.Protocol.Isolation
import SecureDialogues.Protocol.TextFlow
import SecureDialogues.Protocol.Handshake
import SecureDialogues.Protocol.MessageStorm
import SecureDialogues.Protocol.DeliveredTexts
import SecureDialogues.Protocol.UnopenedDialogs
import SecureDialogues.Utils.CompleteTexts
import SecureDialogues.Utils.DeliveryOutcomes
import SecureDialogues.Utils.Trimming
import SecureDialogues.Utils.WordSizes
import SecureDialogues.Crypto.ContactResolution
import SecureDialogues.Crypto.InitialVectors
import SecureDialogues.Crypto.SessionKeys
import SecureDialogues.Crypto.KeyPairs
import SecureDialogues.PersistentStorage.ConnectionMarshaller
import SecureDialogues.PersistentStorage.Marshallers
import SecureDialogues.Plugins.RecievedMessages
import SecureDialogues.Plugins.GmailApi
import SecureDialogues.Plugins.ImapReciever
import SecureDialogues.Plugins.GmailOauth
import SecureDialogues.Plugins.VkTexts
import SecureDialogues.Stepwise.Interleaving
import SecureDialogues.Stepwise.SentMessages
import SecureDialogues.Stepwise.WatchedTexts
import SecureDialogues.Stepwise.PhantomDialog
import SecureDialogues.Stepwise.SystemNotices
import SecureDialogues.Gui.ActiveDialogMessageModel
import SecureDialogues.Gui.DialogSortModel
import SecureDialogues.Gui.BaseSettingsDialog
import SecureDialogues.Gui.ConnectionStatus
import SecureDialogues.Gui.ContactWidget
