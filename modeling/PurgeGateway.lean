import PurgeGateway.Gateway.Schedule
import PurgeGateway.Main
import PurgeGateway.Proofs.Accounts
import PurgeGateway.Proofs.Alone
import PurgeGateway.Proofs.ByteScan
import PurgeGateway.Proofs.Extraction
import PurgeGateway.Proofs.Failures
import PurgeGateway.Proofs.FieldNames
import PurgeGateway.Proofs.FieldsText
import PurgeGateway.Proofs.Flattened
import PurgeGateway.Proofs.KeyCase
import PurgeGateway.Proofs.MediaType
import PurgeGateway.Proofs.NumberGrammar
import PurgeGateway.Proofs.Observer
import PurgeGateway.Proofs.OutlineGrammar
import PurgeGateway.Proofs.OwnKeys
import PurgeGateway.Proofs.Provisioned
import PurgeGateway.Proofs.Recorded
import PurgeGateway.Proofs.Relayed
import PurgeGateway.Proofs.Reports
import PurgeGateway.Proofs.RequestFormat
import PurgeGateway.Proofs.ResultFormat
import PurgeGateway.Proofs.Secrets
import PurgeGateway.Proofs.SignedOrRefused
import PurgeGateway.Proofs.SignedText
import PurgeGateway.Proofs.StringGrammar
import PurgeGateway.Proofs.TokenPayload
import PurgeGateway.Proofs.Truthful
import PurgeGateway.Proofs.ValueGrammar
import PurgeGateway.Proofs.Warmed
import PurgeGateway.Proofs.WarmingFields
import PurgeGateway.Proofs.WrittenOnce
import PurgeGateway.Proofs.BaseAddress
import PurgeGateway.Proofs.Expansion
import PurgeGateway.Proofs.PathsSent
import PurgeGateway.Proofs.ReadByName
