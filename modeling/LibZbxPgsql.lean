import LibZbxPgsql.StateFaultWp
import LibZbxPgsql.HandleLedger
import LibZbxPgsql.SortedTable
import LibZbxPgsql.PrintfFormat
import LibZbxPgsql.Conninfo
import LibZbxPgsql.BoundedArrays
import LibZbxPgsql.Heaps
import LibZbxPgsql.DescendingRows
import LibZbxPgsql.CStrings
import LibZbxPgsql.StringBuffers
import LibZbxPgsql.NamedQueries
import LibZbxPgsql.NamedQueryTable
import LibZbxPgsql.TableInsertions
import LibZbxPgsql.AgentModel
import LibZbxPgsql.JsonBuilder
import LibZbxPgsql.Connections
import LibZbxPgsql.ConnStrings
import LibZbxPgsql.ConnstringBuffers
import LibZbxPgsql.Drivers
import LibZbxPgsql.Discovery
import LibZbxPgsql.KeyFamilies
import LibZbxPgsql.ServerKeys
import LibZbxPgsql.BackendKeys
import LibZbxPgsql.QueryKeys
import LibZbxPgsql.DatabaseKeys
import LibZbxPgsql.TableKeys
import LibZbxPgsql.IndexKeys
import LibZbxPgsql.ItemKeys
import LibZbxPgsql.Dialogues
import LibZbxPgsql.WorldView
import LibZbxPgsql.Sessions
import LibZbxPgsql.ParamMemory
import LibZbxPgsql.DialogueRefinement
import LibZbxPgsql.DriverDialogues
import LibZbxPgsql.HandlerPlans
import LibZbxPgsql.KeyPlans
import LibZbxPgsql.HandleDiscipline
import LibZbxPgsql.ActivityClauses
import LibZbxPgsql.Conclusions
import LibZbxPgsql.QueryBinding
import LibZbxPgsql.ArrayOwnership
import LibZbxPgsql.ResultRelease
import LibZbxPgsql.ResultDiscipline
import LibZbxPgsql.DeepDiscovery
import LibZbxPgsql.DatabaseBuffers
import LibZbxPgsql.SqlTokens
import LibZbxPgsql.ClauseTokens
import LibZbxPgsql.StatementTexts
import LibZbxPgsql.UserText
import LibZbxPgsql.SqlQueries
import LibZbxPgsql.SqlEvaluation
import LibZbxPgsql.OrderedQueries
import LibZbxPgsql.ActivityView
import LibZbxPgsql.BackendFilters
import LibZbxPgsql.OidFilters
import LibZbxPgsql.LongestQueries
import LibZbxPgsql.LongestReports
import LibZbxPgsql.IntegerResults
import LibZbxPgsql.SettingValues
import LibZbxPgsql.IndexFilters
import LibZbxPgsql.ErrorTexts
import LibZbxPgsql.WideParameters
import LibZbxPgsql.BackendAccounting
import LibZbxPgsql.RatioQueries
import LibZbxPgsql.RatioAgreement
import LibZbxPgsql.SqlJoins
import LibZbxPgsql.SystemCatalogs
import LibZbxPgsql.DiscoveredNumbers
import LibZbxPgsql.PlanShapes
import LibZbxPgsql.AgentRuns
import LibZbxPgsql.WireSessions
import LibZbxPgsql.AbsentParameters
import LibZbxPgsql.CrashFreedom
import LibZbxPgsql.ConfigMemory
import LibZbxPgsql.ReadOnlyQueries
import LibZbxPgsql.CounterTotals
import LibZbxPgsql.FilteredCounts
import LibZbxPgsql.DiscoveryDocuments
import LibZbxPgsql.TableCosts
import LibZbxPgsql.DiscoveredTotals
import LibZbxPgsql.InheritedTotals
import LibZbxPgsql.ModuleStart
