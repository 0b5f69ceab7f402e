import ChromiumIos.WebStateList.OpenedGroups
import ChromiumIos.WebStateList.Selection
import ChromiumIos.WebStateList.Mirror
import ChromiumIos.WebStateList.RestoredOpeners
import ChromiumIos.Navigation.SameDocument
import ChromiumIos.Sessions.SessionService
import ChromiumIos.Net.HttpProtocolTrace
import ChromiumIos.Net.ProxiedCallbacks
import ChromiumIos.Prerender.PrerenderCancels
import ChromiumIos.Navigation.VisibleItem
import ChromiumIos.FindInPage.Cuts
import ChromiumIos.Navigation.ErrorRetryStateMachine
import ChromiumIos.Net.Cookies.CompareCookies
import ChromiumIos.FindInPage.FindCounts
import ChromiumIos.Net.Cookies.CookieCacheUpdates
import ChromiumIos.Net.Cookies.CookieFlushes
import ChromiumIos.Net.Cookies.CookieChanges
import ChromiumIos.Navigation.SessionControllerMoves
import ChromiumIos.Navigation.LegacyOffsets
import ChromiumIos.ReadingList.StartUpCleanUp
import ChromiumIos.Frames.WebFramesManager
import ChromiumIos.Frames.FrameMessagingRuns
import ChromiumIos.Frames.EncryptedCalls
import ChromiumIos.Tabs.TabStripRuns
import ChromiumIos.Tabs.UndoCloseAllItems
import ChromiumIos.Tabs.TabGridRuns
import ChromiumIos.Tabs.ThumbnailRuns
import ChromiumIos.App.DeferredBlockRuns
import ChromiumIos.BrowsingData.RemovalRuns
import ChromiumIos.Payments.InstrumentSearches
import ChromiumIos.ShareExtension.ItemReadings
import ChromiumIos.ShareExtension.FolderObservation
import ChromiumIos.WebUI.MojoWatches
import ChromiumIos.WebUI.RequestRuns
import ChromiumIos.Net.Cookies.CookieTimeRuns
import ChromiumIos.Net.SSLCallbacks
import ChromiumIos.Dialogs.DialogsInOrder
import ChromiumIos.Dialogs.ConfirmationSheets
import ChromiumIos.Navigation.DetachedRestores
import ChromiumIos.Navigation.RestoredItems
import ChromiumIos.FindInPage.Selections
import ChromiumIos.Download.WriterFailures
import ChromiumIos.Navigation.WKNavigationUserAgents
import ChromiumIos.Fullscreen.ShortContent
import ChromiumIos.Frames.LateReplies
import ChromiumIos.FindInPage.FrameOrder
import ChromiumIos.Omaha.PingTimes
import ChromiumIos.ReadingList.ReadingListDistillerPage
import ChromiumIos.ReadingList.OfflineURLUtils
import ChromiumIos.ReadingList.PageImages
import ChromiumIos.Bookmarks.NodeVectors
import ChromiumIos.Bookmarks.VisibleFolders
import ChromiumIos.Certificates.SessionCertificatePolicyCache
import ChromiumIos.Net.ProtocolHandlerUtil
import ChromiumIos.History.SectionsOfDays
import ChromiumIos.FindInPage.FindString
import ChromiumIos.Omaha.RequestAges
import ChromiumIos.WebUI.FlattenedPage
import ChromiumIos.WebUI.MojoMessages
import ChromiumIos.Navigation.RedirectedUrls
