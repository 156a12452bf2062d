import TokenTariff.Api.Handler
import TokenTariff.Proofs.Api.Preview
import TokenTariff.Proofs.Api.Statuses
import TokenTariff.Proofs.Catalog.Edits
import TokenTariff.Proofs.Catalog.ReadBack
import TokenTariff.Proofs.Catalog.Readable
import TokenTariff.Proofs.Catalog.TableTexts
import TokenTariff.Proofs.Price.NormalForms
import TokenTariff.Proofs.Registry.Billing
import TokenTariff.Proofs.Registry.Coherence
import TokenTariff.Proofs.Registry.Deletions
import TokenTariff.Proofs.Registry.FlatSaves
import TokenTariff.Proofs.Registry.Isolation
import TokenTariff.Proofs.Registry.Names
import TokenTariff.Proofs.Registry.Refinement
import TokenTariff.Proofs.Registry.Reposting
import TokenTariff.Proofs.Registry.Settling
import TokenTariff.Proofs.Registry.Steps
import TokenTariff.Proofs.Registry.StoredRecords
import TokenTariff.Proofs.Registry.Unreadable
import TokenTariff.Proofs.Registry.Writes
import TokenTariff.Proofs.Remote.Addresses
import TokenTariff.Proofs.Remote.Refusals
import TokenTariff.Proofs.Startup.StoreAddress
import TokenTariff.Proofs.Tariff.Decoding
import TokenTariff.Proofs.Tariff.Format
import TokenTariff.Proofs.Tier.BetweenBounds
import TokenTariff.Proofs.Tier.IdleTiers
import TokenTariff.Proofs.Tier.Ladder
import TokenTariff.Proofs.Tier.Selection
import TokenTariff.Proofs.Tier.Summaries
import TokenTariff.Remote.Client
import TokenTariff.Remote.Memory
import TokenTariff.Startup.Variables
