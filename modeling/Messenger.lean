import Messenger.Client.Dialogs
import Messenger.Client.GiftCodes
import Messenger.Client.Gifts
import Messenger.Client.Payments
import Messenger.Client.Posts
import Messenger.Client.Search
import Messenger.Client.Settings
import Messenger.Client.Shipping
import Messenger.Json.Number
import Messenger.Present.Error
import Messenger.Present.Message
import Messenger.Proofs.Paging.Ledger
import Messenger.Proofs.Paging.Flat
import Messenger.Proofs.Gifts.Pages
import Messenger.Proofs.Dialogs.Pages
import Messenger.Proofs.Dialogs.Server
import Messenger.Proofs.Dialogs.Served
import Messenger.Proofs.Dialogs.Completeness
import Messenger.Proofs.Steps
import Messenger.Proofs.Payments
import Messenger.Proofs.Paging.Resume
import Messenger.Proofs.Paging.Queries
import Messenger.Proofs.Paging.Limits
import Messenger.Proofs.Posts
import Messenger.Proofs.Behalf
import Messenger.Proofs.Methods.Catalogue
import Messenger.Proofs.Methods.Conduct
import Messenger.Proofs.Methods.References
import Messenger.Proofs.Methods.Failures
import Messenger.Proofs.StoredPosts
import Messenger.Proofs.Schema.Rendering
import Messenger.Proofs.Paging.Totals
import Messenger.Proofs.PrivacyRules
import Messenger.Proofs.Schema.Faithful
import Messenger.Proofs.Schema.Messages
import Messenger.Proofs.Schema.RoundTrip
import Messenger.Proofs.Updates
import Messenger.Proofs.Numerals
import Messenger.Proofs.ReferenceTexts
import Messenger.Proofs.MarkedIds
import Messenger.Proofs.ServerErrors
import Messenger.Proofs.Methods.Numbering
import Messenger.Proofs.RandomIds
import Messenger.Proofs.ErrorPatterns
import Messenger.Proofs.LinkGrammar
import Messenger.Proofs.ShippingAnswers
import Messenger.Proofs.Directories
import Messenger.Proofs.Unchanged
import Messenger.Proofs.Listings
import Messenger.Proofs.Gifts.Givers
import Messenger.Proofs.Paging.Positions
import Messenger.Proofs.Dialogs.TopMessages
import Messenger.Proofs.PaidMedia
