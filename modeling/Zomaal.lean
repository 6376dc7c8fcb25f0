import Zomaal.AdsMirror
import Zomaal.AuthSessions
import Zomaal.Barcodes
import Zomaal.BundleCosts
import Zomaal.CatalogueExport
import Zomaal.CatalogueRoundTrip
import Zomaal.Categories
import Zomaal.CodConvergence
import Zomaal.ConditionRows
import Zomaal.ConsumedCosts
import Zomaal.CourierAmounts
import Zomaal.CourierStatuses
import Zomaal.Coverage
import Zomaal.Csv
import Zomaal.CustomerCounters
import Zomaal.CustomerIdentity
import Zomaal.DeliveredSales
import Zomaal.DispatchProtocol
import Zomaal.DispatchRace
import Zomaal.DuplicateClusters
import Zomaal.ExpenseRetries
import Zomaal.Expenses
import Zomaal.FetchedOrders
import Zomaal.FirstLabel
import Zomaal.FixedWindow
import Zomaal.ForceLogTimeline
import Zomaal.JsonValues
import Zomaal.Latest
import Zomaal.LedgerEvaluations
import Zomaal.LedgerFigures
import Zomaal.LedgerTotals
import Zomaal.LineHistories
import Zomaal.LineLosses
import Zomaal.LocalMidnight
import Zomaal.MachineRun
import Zomaal.ManualBilling
import Zomaal.ManualOrderRetries
import Zomaal.ManualOrders
import Zomaal.MediaLifetimes
import Zomaal.MediaUploads
import Zomaal.NormalizedFigures
import Zomaal.Notifications
import Zomaal.NumberTexts
import Zomaal.OffsetPages
import Zomaal.OrderConservation
import Zomaal.OrderNormalizers
import Zomaal.OrderResyncs
import Zomaal.OrderTimeline
import Zomaal.OrderVersions
import Zomaal.OwnerAlertRuns
import Zomaal.OzoneExpressParcels
import Zomaal.PackagingCredit
import Zomaal.PagedLists
import Zomaal.Paging
import Zomaal.PaidPeriods
import Zomaal.ParcelSync
import Zomaal.ParentLinks
import Zomaal.PlatformOrders
import Zomaal.ProductCreation
import Zomaal.ProductImports
import Zomaal.ProductRetries
import Zomaal.ProductUpdates
import Zomaal.ProductVariants
import Zomaal.PurchaseBooks
import Zomaal.PurchaseGroups
import Zomaal.Purchases
import Zomaal.QuickLivraison
import Zomaal.QuickLivraisonRisk
import Zomaal.RateLimits
import Zomaal.ReadCommitted
import Zomaal.ReturnAllocations
import Zomaal.ReturnHistory
import Zomaal.ReturnLossBooks
import Zomaal.ReturnLosses
import Zomaal.ReturnReconciliation
import Zomaal.ReturnRecording
import Zomaal.ReturnRequests
import Zomaal.RiskRemoval
import Zomaal.Rotation
import Zomaal.SalaryCursor
import Zomaal.SalaryPayments
import Zomaal.SalaryProjection
import Zomaal.SaleValues
import Zomaal.SavedAllocations
import Zomaal.SenditRisk
import Zomaal.ShopAmounts
import Zomaal.ShopCatalogue
import Zomaal.ShopCosts
import Zomaal.ShopDelivery
import Zomaal.ShopPromo
import Zomaal.ShopSettlement
import Zomaal.ShopStock
import Zomaal.SignificantDigits
import Zomaal.SnapchatLease
import Zomaal.SnapchatSync
import Zomaal.SortedLists
import Zomaal.StaffSessions
import Zomaal.StatusReadings
import Zomaal.StoredAmounts
import Zomaal.Stores
import Zomaal.StripeBilling
import Zomaal.Subscriptions
import Zomaal.SyncPages
import Zomaal.SyncRetries
import Zomaal.SyncSchedules
import Zomaal.SyncWindows
import Zomaal.TerminalOutcomes
import Zomaal.ThreadPool
import Zomaal.WebhookReceipts
import Zomaal.WhatsAppLedger
import Zomaal.WhatsAppStatuses
